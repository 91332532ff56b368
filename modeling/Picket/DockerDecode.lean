import Picket.Lib.JsonStream

/-!
# Decoding the responses of the Docker API

The docker manager reads every response body into one buffer, from which one decoder decodes them
all. The buffer is emptied after every response; what the decoder has taken out of it is not.
-/

namespace Picket

open JsonStream

/-- `resp.Body`: what can be read of it, and whether reading it ends in an error. -/
structure ResponseBody where
  bytes : List UInt8
  readFails : Bool := false
  deriving DecidableEq

inductive ResponseError where
  | read
  | json (e : DecodeError)
  deriving DecidableEq

/-- The decoder of a docker manager, and the results of its calls so far. -/
structure ResponseDecoder where
  decoder : Decoder := {}
  results : List (Except ResponseError (List UInt8)) := []
  deriving DecidableEq

namespace ResponseDecoder

/-- `dm.decode`, up to the value that is unmarshalled. -/
def decode (dm : ResponseDecoder) (resp : ResponseBody) :
    Except ResponseError (List UInt8) × Decoder :=
  if resp.readFails then (.error .read, dm.decoder)
  else
    match dm.decoder.decode resp.bytes with
    | (.error e, decoder, _) => (.error (.json e), decoder)
    | (.ok value, decoder, _) => (.ok value, decoder)

def step (dm : ResponseDecoder) (resp : ResponseBody) : Option ResponseDecoder :=
  some { decoder := (dm.decode resp).2, results := dm.results ++ [(dm.decode resp).1] }

end ResponseDecoder

/-- What a fresh decoder makes of the response. -/
def decodeAlone (resp : ResponseBody) : Except ResponseError (List UInt8) :=
  (({} : ResponseDecoder).decode resp).1

end Picket
