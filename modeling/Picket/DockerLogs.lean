import Picket.DiskDevices
import Picket.Lib.Budget

/-!
# Container logs

Docker sends logs in frames, each with a header that says how long it is. The stream may also be
raw; what is not known from its type is seen from its first header.
-/

namespace Picket.Docker

def maxLogFrameSize : ℕ := 1024 * 1024

def maxTotalLogSize : ℕ := 5 * 1024 * 1024

/-- `binary.BigEndian.Uint32`. -/
def bigEndianUint32 : List Uint8 → ℕ
  | [a, b, c, d] => ((a.val * 256 + b.val) * 256 + c.val) * 256 + d.val
  | _ => 0

def detectDockerMultiplexedStream (reader : List Uint8) : Bool :=
  match reader.take 8 with
  | stream :: b :: c :: d :: size =>
      if size.length < 4 then false
      else if stream ≠ 1 ∧ stream ≠ 2 then false
      else if b ≠ 0 ∨ c ≠ 0 ∨ d ≠ 0 then false
      else bigEndianUint32 size ≤ maxLogFrameSize
  | _ => false

/-- The loop over the frames, with what has been written. A stream may end anywhere. -/
def decodeFrames (reader builder : List Uint8) (totalBytesRead : ℕ) :
    List Uint8 × Option String :=
  if _hheader : reader.length < 8 then (builder, none)
  else
    let frameLen := bigEndianUint32 ((reader.take 8).drop 4)
    let rest := reader.drop 8
    if frameLen = 0 then decodeFrames rest builder totalBytesRead
    else if maxLogFrameSize < frameLen then
      (builder, some s!"log frame size ({frameLen}) exceeds maximum ({maxLogFrameSize})")
    else if maxTotalLogSize < totalBytesRead + frameLen then (builder, none)
    else if rest.length < frameLen then (builder ++ rest, none)
    else
      decodeFrames (rest.drop frameLen) (builder ++ rest.take frameLen)
        (totalBytesRead + frameLen)
termination_by reader.length
decreasing_by
  all_goals
    simp only [List.length_drop]
    omega

def decodeDockerLogStream (reader : List Uint8) (multiplexed : Bool) :
    List Uint8 × Option String :=
  if multiplexed then decodeFrames reader [] 0 else (reader.take maxTotalLogSize, none)

/-- The part of `getLogs` that reads the answer. -/
def readLogs (contentType : String) (body : List Uint8) : List Uint8 × Option String :=
  let multiplexed := Gather.hasSuffix contentType "multiplexed-stream"
  let multiplexed := multiplexed || detectDockerMultiplexedStream body
  decodeDockerLogStream body multiplexed

/-! ### Frames -/

structure LogFrame where
  stream : Uint8
  payload : List Uint8
  stream_eq : stream = 1 ∨ stream = 2
  length_le : payload.length ≤ maxLogFrameSize

namespace LogFrame

/-- `binary.BigEndian.PutUint32`. -/
def putUint32 (n : ℕ) : List Uint8 :=
  [Fin.ofNat (2 ^ 8) (n / 2 ^ 24), Fin.ofNat (2 ^ 8) (n / 2 ^ 16), Fin.ofNat (2 ^ 8) (n / 2 ^ 8),
    Fin.ofNat (2 ^ 8) n]

def header (f : LogFrame) : List Uint8 :=
  f.stream :: 0 :: 0 :: 0 :: putUint32 f.payload.length

def encode (f : LogFrame) : List Uint8 :=
  f.header ++ f.payload

/-- The frames that are shown, which are the longest start of them that fits. -/
def kept (frames : List LogFrame) : List LogFrame :=
  Budget.takeWithin (·.payload.length) maxTotalLogSize frames

/-- The bytes of the encoding, each with whether it is shown. -/
def marked (shown : Bool) (f : LogFrame) : List (Uint8 × Bool) :=
  f.header.map (·, false) ++ f.payload.map (·, shown)

/-- Of the frames that are kept the payload is shown. -/
def markedFrames (budget : ℕ) (frames : List LogFrame) : List (Uint8 × Bool) :=
  (Budget.takeWithin (·.payload.length) budget frames).flatMap (marked true) ++
    (Budget.dropWithin (·.payload.length) budget frames).flatMap (marked false)

def shownBefore (cut : ℕ) (frames : List LogFrame) : List Uint8 :=
  (((markedFrames maxTotalLogSize frames).take cut).filter (·.2)).map (·.1)

end LogFrame

end Picket.Docker
