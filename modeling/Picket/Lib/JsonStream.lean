import Mathlib.Data.List.Basic

/-!
# Reading JSON values from a stream

An automaton finds the end of a JSON value byte by byte. The decoder over it reads from its source
in pieces, so it may hold bytes from beyond the value it returns; these come first when the next
value is read. An error ends the stream: it is returned again by every later call.

How the source falls into pieces decides what is held afterwards, and never what is returned: that
is a function of the bytes held and the bytes of the source, one after the other.
-/

namespace JsonStream

/-! ### The automaton -/

/-- What the innermost open object or array is waiting for. -/
inductive ParseState where
  | objectKey
  | objectValue
  | arrayValue
  deriving DecidableEq

/-- What the next byte belongs to. -/
inductive Step where
  | beginValueOrEmpty
  | beginValue
  | beginStringOrEmpty
  | beginString
  | endValue
  | inString
  | inStringEsc
  /-- In `\u`, with this many digits still to come. -/
  | inStringEscU (digits : ℕ)
  | neg
  | int
  | zero
  | dot
  | dotDigits
  | exp
  | expSign
  | expDigits
  /-- In `true`, `false` or `null`, before this letter and the rest. -/
  | literal (letter : Char) (rest : List Char)
  deriving DecidableEq

/-- The open objects and arrays stand innermost first. -/
structure Scanner where
  step : Step := .beginValue
  parseState : List ParseState := []
  deriving DecidableEq

inductive Scan where
  /-- The byte is part of the value, which goes on. -/
  | more (s : Scanner)
  /-- The byte is the last of the value. -/
  | closed
  /-- The value ended before the byte. -/
  | ended
  | error
  deriving DecidableEq

def ascii (text : String) : List UInt8 :=
  text.toList.map Char.toUInt8

def isSpace (c : UInt8) : Bool :=
  c = 32 || c = 9 || c = 13 || c = 10

def isDigit (c : UInt8) : Bool :=
  48 ≤ c && c ≤ 57

def isHexDigit (c : UInt8) : Bool :=
  isDigit c || (97 ≤ c && c ≤ 102) || (65 ≤ c && c ≤ 70)

def maxNestingDepth : ℕ := 10000

namespace Scanner

def goTo (s : Scanner) (step : Step) : Scan :=
  .more { s with step }

def push (s : Scanner) (inner : ParseState) (step : Step) : Scan :=
  if s.parseState.length < maxNestingDepth then .more ⟨step, inner :: s.parseState⟩ else .error

def pop (s : Scanner) : Scan :=
  match s.parseState.tail with
  | [] => .closed
  | outer => .more ⟨.endValue, outer⟩

def endValue (s : Scanner) (c : UInt8) : Scan :=
  match s.parseState with
  | [] => .ended
  | inner :: outer =>
      if isSpace c then s.goTo .endValue
      else
        match inner, Char.ofUInt8 c with
        | .objectKey, ':' => .more ⟨.beginValue, .objectValue :: outer⟩
        | .objectValue, ',' => .more ⟨.beginString, .objectKey :: outer⟩
        | .objectValue, '}' => s.pop
        | .arrayValue, ',' => s.goTo .beginValue
        | .arrayValue, ']' => s.pop
        | _, _ => .error

def beginValue (s : Scanner) (c : UInt8) : Scan :=
  if isSpace c then .more s
  else
    match Char.ofUInt8 c with
    | '{' => s.push .objectKey .beginStringOrEmpty
    | '[' => s.push .arrayValue .beginValueOrEmpty
    | '"' => s.goTo .inString
    | '-' => s.goTo .neg
    | '0' => s.goTo .zero
    | 't' => s.goTo (.literal 'r' ['u', 'e'])
    | 'f' => s.goTo (.literal 'a' ['l', 's', 'e'])
    | 'n' => s.goTo (.literal 'u' ['l', 'l'])
    | _ => if isDigit c then s.goTo .int else .error

def beginString (s : Scanner) (c : UInt8) : Scan :=
  if isSpace c then .more s else if Char.ofUInt8 c = '"' then s.goTo .inString else .error

/-- After the integer part of a number. -/
def afterInt (s : Scanner) (c : UInt8) : Scan :=
  match Char.ofUInt8 c with
  | '.' => s.goTo .dot
  | 'e' | 'E' => s.goTo .exp
  | _ => s.endValue c

def next (s : Scanner) (c : UInt8) : Scan :=
  match s.step with
  | .beginValueOrEmpty =>
      if isSpace c then .more s else if Char.ofUInt8 c = ']' then s.endValue c else s.beginValue c
  | .beginValue => s.beginValue c
  | .beginStringOrEmpty =>
      if isSpace c then .more s
      else if Char.ofUInt8 c = '}' then
        { s with parseState := .objectValue :: s.parseState.tail }.endValue c
      else s.beginString c
  | .beginString => s.beginString c
  | .endValue => s.endValue c
  | .inString =>
      match Char.ofUInt8 c with
      | '"' => s.goTo .endValue
      | '\\' => s.goTo .inStringEsc
      | _ => if c < 32 then .error else .more s
  | .inStringEsc =>
      match Char.ofUInt8 c with
      | 'b' | 'f' | 'n' | 'r' | 't' | '\\' | '/' | '"' => s.goTo .inString
      | 'u' => s.goTo (.inStringEscU 3)
      | _ => .error
  | .inStringEscU digits =>
      if isHexDigit c then
        match digits with
        | 0 => s.goTo .inString
        | digits + 1 => s.goTo (.inStringEscU digits)
      else .error
  | .neg =>
      if Char.ofUInt8 c = '0' then s.goTo .zero else if isDigit c then s.goTo .int else .error
  | .int => if isDigit c then .more s else s.afterInt c
  | .zero => s.afterInt c
  | .dot => if isDigit c then s.goTo .dotDigits else .error
  | .dotDigits =>
      if isDigit c then .more s
      else
        match Char.ofUInt8 c with
        | 'e' | 'E' => s.goTo .exp
        | _ => s.endValue c
  | .exp =>
      match Char.ofUInt8 c with
      | '+' | '-' => s.goTo .expSign
      | _ => if isDigit c then s.goTo .expDigits else .error
  | .expSign => if isDigit c then s.goTo .expDigits else .error
  | .expDigits => if isDigit c then .more s else s.endValue c
  | .literal letter rest =>
      if Char.ofUInt8 c = letter then
        match rest with
        | [] => s.goTo .endValue
        | letter :: rest => s.goTo (.literal letter rest)
      else .error

theorem next_space {c : UInt8} (hspace : isSpace c = true) :
    ({} : Scanner).next c = .more {} := by
  change ({} : Scanner).beginValue c = .more {}
  rw [beginValue, if_pos hspace]

end Scanner

/-- The text of a syntax error is made of the byte and of what was expected. -/
inductive DecodeError where
  | syntaxError (c : UInt8) (s : Scanner)
  | unexpectedEOF
  | eof
  deriving DecidableEq

/-- What the automaton has found at the end of some bytes. -/
inductive Scanned where
  | value (length : ℕ)
  | failed (e : DecodeError)
  | more (s : Scanner)
  deriving DecidableEq

def Scanned.after (n : ℕ) : Scanned → Scanned
  | .value length => .value (n + length)
  | found => found

def scan : Scanner → List UInt8 → Scanned
  | s, [] => .more s
  | s, c :: cs =>
      match s.next c with
      | .more s => (scan s cs).after 1
      | .closed => .value 1
      | .ended => .value 0
      | .error => .failed (.syntaxError c s)

theorem Scanned.after_after (m n : ℕ) (found : Scanned) :
    (found.after n).after m = found.after (m + n) := by
  cases found <;> simp [after, Nat.add_assoc]

theorem Scanned.after_zero (found : Scanned) : found.after 0 = found := by
  cases found <;> simp [after]

theorem scan_append (s : Scanner) (cs ds : List UInt8) :
    scan s (cs ++ ds) =
      match scan s cs with
      | .more s => (scan s ds).after cs.length
      | found => found := by
  induction cs generalizing s with
  | nil => exact (Scanned.after_zero _).symm
  | cons c cs ih =>
      rw [List.cons_append, scan, scan]
      cases s.next c with
      | more t =>
          simp only
          rw [ih]
          cases scan t cs with
          | more u =>
              change ((scan u ds).after cs.length).after 1 = (scan u ds).after (c :: cs).length
              rw [Scanned.after_after, List.length_cons, Nat.add_comm]
          | value length => rfl
          | failed e => rfl
      | closed => rfl
      | ended => rfl
      | error => rfl

theorem scan_value_le {s : Scanner} {cs : List UInt8} {n : ℕ} (hscan : scan s cs = .value n) :
    n ≤ cs.length := by
  induction cs generalizing s n with
  | nil => cases hscan
  | cons c cs ih =>
      rw [scan] at hscan
      cases hnext : s.next c with
      | more t =>
          simp only [hnext] at hscan
          cases hrest : scan t cs with
          | value m =>
              rw [hrest] at hscan
              obtain rfl := Scanned.value.inj hscan
              have hle := ih hrest
              simp only [List.length_cons]
              omega
          | failed e => rw [hrest] at hscan; cases hscan
          | more u => rw [hrest] at hscan; cases hscan
      | closed =>
          simp only [hnext] at hscan
          obtain rfl := Scanned.value.inj hscan
          simp
      | ended =>
          simp only [hnext] at hscan
          obtain rfl := Scanned.value.inj hscan
          simp
      | error => simp only [hnext] at hscan; cases hscan

theorem scan_spaces {ws : List UInt8} (hspaces : ∀ c ∈ ws, isSpace c = true) :
    scan {} ws = .more {} := by
  induction ws with
  | nil => rfl
  | cons c ws ih =>
      rw [scan, Scanner.next_space (hspaces c (by simp))]
      simp only
      rw [ih fun c hc => hspaces c (by simp [hc])]
      rfl

/-! ### The whole of the bytes at once -/

/-- The bytes end where the automaton is at `s`. -/
def atEOF (s : Scanner) (bytes : List UInt8) : Except DecodeError ℕ :=
  if s.next 32 = .ended then .ok bytes.length
  else if bytes.any (!isSpace ·) then .error .unexpectedEOF
  else .error .eof

/-- The length of the first value, leading space included, when there are no more bytes. -/
def valueLength (bytes : List UInt8) : Except DecodeError ℕ :=
  match scan {} bytes with
  | .value length => .ok length
  | .failed e => .error e
  | .more s => atEOF s bytes

/-- The bytes are one value, between spaces. -/
def OneValue (bytes : List UInt8) : Prop :=
  ∃ n, valueLength bytes = .ok n ∧ ∀ c ∈ bytes.drop n, isSpace c = true

def firstValue (bytes : List UInt8) : Except DecodeError (List UInt8) :=
  (valueLength bytes).map fun n => (bytes.take n).dropWhile isSpace

theorem atEOF_le {s : Scanner} {bytes : List UInt8} {n : ℕ} (hlength : atEOF s bytes = .ok n) :
    n ≤ bytes.length := by
  rw [atEOF] at hlength
  split at hlength
  · exact Nat.le_of_eq (Except.ok.inj hlength).symm
  · split at hlength <;> cases hlength

theorem valueLength_of_value {bytes : List UInt8} {n : ℕ} (hscan : scan {} bytes = .value n)
    (rest : List UInt8) : valueLength (bytes ++ rest) = .ok n := by
  rw [valueLength, scan_append, hscan]

theorem valueLength_of_failed {bytes : List UInt8} {e : DecodeError}
    (hscan : scan {} bytes = .failed e) (rest : List UInt8) :
    valueLength (bytes ++ rest) = .error e := by
  rw [valueLength, scan_append, hscan]

section Spaces

variable {ws : List UInt8} (hspaces : ∀ c ∈ ws, isSpace c = true)
include hspaces

theorem valueLength_spaces_append (bytes : List UInt8) :
    valueLength (ws ++ bytes) = (valueLength bytes).map (ws.length + ·) := by
  have hany : (ws ++ bytes).any (!isSpace ·) = bytes.any (!isSpace ·) := by
    rw [List.any_append, Bool.or_eq_right_iff_imp]
    intro hws
    obtain ⟨c, hc, hnot⟩ := List.any_eq_true.mp hws
    rw [hspaces c hc] at hnot
    cases hnot
  rw [valueLength, valueLength, scan_append, scan_spaces hspaces]
  simp only
  cases scan {} bytes with
  | value length => rfl
  | failed e => rfl
  | more s =>
      simp only [Scanned.after, atEOF, hany, List.length_append]
      split
      · rfl
      · split <;> rfl

theorem firstValue_spaces_append (bytes : List UInt8) :
    firstValue (ws ++ bytes) = firstValue bytes := by
  rw [firstValue, firstValue, valueLength_spaces_append hspaces]
  cases valueLength bytes with
  | error e => rfl
  | ok n =>
      simp only [Except.map]
      rw [List.take_length_add_append, List.dropWhile_append_of_pos hspaces]

end Spaces

/-! ### The decoder -/

def minRead : ℕ := 512

/-- The bytes read and not used yet, in a buffer of some capacity. -/
structure Decoder where
  buf : List UInt8 := []
  cap : ℕ := 0
  err : Option DecodeError := none
  bounded : buf.length ≤ cap := by decide
  deriving DecidableEq

namespace Decoder

def fail (dec : Decoder) (e : DecodeError) : Decoder :=
  { dec with err := some e }

/-- The capacity in which the next piece is read. -/
def room (dec : Decoder) : ℕ :=
  if dec.cap - dec.buf.length < minRead then 2 * dec.cap + minRead else dec.cap

theorem length_lt_room (dec : Decoder) : dec.buf.length < dec.room := by
  have hbounded := dec.bounded
  have hminRead : minRead = 512 := rfl
  rw [room]
  split <;> omega

def refill (dec : Decoder) (source : List UInt8) : Decoder where
  buf := dec.buf ++ source.take (dec.room - dec.buf.length)
  cap := dec.room
  err := dec.err
  bounded := by
    have hlt := dec.length_lt_room
    rw [List.length_append, List.length_take]
    omega

theorem refill_nil (dec : Decoder) : (dec.refill []).buf = dec.buf := by
  simp [refill]

def unread (dec : Decoder) (source : List UInt8) : List UInt8 :=
  source.drop (dec.room - dec.buf.length)

theorem refill_append_unread (dec : Decoder) (source : List UInt8) :
    (dec.refill source).buf ++ dec.unread source = dec.buf ++ source := by
  rw [refill, unread, List.append_assoc, List.take_append_drop]

theorem length_unread_lt (dec : Decoder) {source : List UInt8} (hsource : source ≠ []) :
    (dec.unread source).length < source.length := by
  have hlt := dec.length_lt_room
  have hpos := List.length_pos_iff.mpr hsource
  rw [unread, List.length_drop]
  omega

/-- Reads up to the end of the value, when `scanned` bytes of the buffer have led to `s`. -/
def readValue (dec : Decoder) (source : List UInt8) (scanned : ℕ) (s : Scanner) :
    Except DecodeError ℕ × Decoder × List UInt8 :=
  match scan s (dec.buf.drop scanned) with
  | .value length => (.ok (scanned + length), dec, source)
  | .failed e => (.error e, dec.fail e, source)
  | .more s =>
      let filled := dec.refill source
      if source = [] then
        match atEOF s filled.buf with
        | .ok n => (.ok n, filled, [])
        | .error e => (.error e, filled.fail e, [])
      else filled.readValue (dec.unread source) dec.buf.length s
termination_by source.length
decreasing_by exact dec.length_unread_lt ‹_›

def skip (dec : Decoder) (n : ℕ) : Decoder where
  buf := dec.buf.drop n
  cap := dec.cap
  err := dec.err
  bounded := by
    have hbounded := dec.bounded
    rw [List.length_drop]
    omega

def decode (dec : Decoder) (source : List UInt8) :
    Except DecodeError (List UInt8) × Decoder × List UInt8 :=
  match dec.err with
  | some e => (.error e, dec, source)
  | none =>
      match dec.readValue source 0 {} with
      | (.ok n, dec, source) => (.ok ((dec.buf.take n).dropWhile isSpace), dec.skip n, source)
      | (.error e, dec, source) => (.error e, dec, source)

example : ({} : Decoder).decode (ascii "[1] 2") =
    (.ok (ascii "[1]"), { buf := ascii " 2", cap := 512 }, []) := by
  decide +kernel

/-! ### What the pieces do not change -/

/-- What the first value of the bytes held and the source is, or why there is none, has been found
out, and no byte is lost. -/
structure Reads (dec : Decoder) (source : List UInt8)
    (read : Except DecodeError ℕ × Decoder × List UInt8) : Prop where
  found : read.1 = valueLength (dec.buf ++ source)
  bytes : read.2.1.buf ++ read.2.2 = dec.buf ++ source
  within : ∀ n, read.1 = .ok n → n ≤ read.2.1.buf.length
  err : ∀ n, read.1 = .ok n → read.2.1.err = dec.err

theorem scan_buf {dec : Decoder} {scanned : ℕ} {s : Scanner} {found : Scanned}
    (hle : scanned ≤ dec.buf.length) (hscan : scan {} (dec.buf.take scanned) = .more s)
    (hfound : scan s (dec.buf.drop scanned) = found) : scan {} dec.buf = found.after scanned := by
  rw [← List.take_append_drop scanned dec.buf, scan_append, hscan]
  simp only
  rw [List.length_take_of_le hle, hfound]

theorem reads_readValue {dec : Decoder} {source : List UInt8} {scanned : ℕ} {s : Scanner}
    (hle : scanned ≤ dec.buf.length) (hscan : scan {} (dec.buf.take scanned) = .more s) :
    Reads dec source (dec.readValue source scanned s) := by
  induction dec, source, scanned, s using readValue.induct with
  | case1 dec source scanned s length hfound =>
      have hbuf := scan_buf hle hscan hfound
      rw [readValue, hfound]
      refine ⟨(valueLength_of_value hbuf source).symm, rfl, fun n hn => ?_, fun _ _ => rfl⟩
      obtain rfl := Except.ok.inj hn
      exact scan_value_le hbuf
  | case2 dec source scanned s e hfound =>
      have hbuf := scan_buf hle hscan hfound
      rw [readValue, hfound]
      exact ⟨(valueLength_of_failed hbuf source).symm, rfl, nofun, nofun⟩
  | case3 dec scanned s s' hfound n filled hend =>
      have hbuf := scan_buf hle hscan hfound
      have hlength : valueLength (dec.buf ++ []) = .ok n := by
        rw [List.append_nil, valueLength, hbuf, ← dec.refill_nil]
        exact hend
      rw [readValue, hfound]
      simp only [↓reduceIte]
      rw [hend]
      refine ⟨hlength.symm, by simp [dec.refill_nil], fun n' hn => ?_, fun _ _ => rfl⟩
      obtain rfl := Except.ok.inj hn
      exact atEOF_le hend
  | case4 dec scanned s s' hfound e filled hend =>
      have hbuf := scan_buf hle hscan hfound
      have hlength : valueLength (dec.buf ++ []) = .error e := by
        rw [List.append_nil, valueLength, hbuf, ← dec.refill_nil]
        exact hend
      rw [readValue, hfound]
      simp only [↓reduceIte]
      rw [hend]
      exact ⟨hlength.symm, by simp [fail, dec.refill_nil], nofun, nofun⟩
  | case5 dec source scanned s s' hfound filled hsource ih =>
      have hbuf : scan {} dec.buf = .more s' := scan_buf hle hscan hfound
      have htake : filled.buf.take dec.buf.length = dec.buf := List.take_left
      have hreads := ih (by simp [filled, refill]) (by rw [htake, hbuf])
      have hbytes : filled.buf ++ dec.unread source = dec.buf ++ source :=
        dec.refill_append_unread source
      rw [readValue, hfound]
      simp only [if_neg hsource]
      exact ⟨by rw [← hbytes]; exact hreads.found, by rw [← hbytes]; exact hreads.bytes,
        hreads.within, hreads.err⟩

/-- No error has been met, and what is held separates values. -/
def Clean (dec : Decoder) : Prop :=
  dec.err = none ∧ ∀ c ∈ dec.buf, isSpace c = true

instance (dec : Decoder) : Decidable dec.Clean :=
  inferInstanceAs (Decidable (_ ∧ _))

/-- **What a decoder returns.** The pieces in which the source is read do not matter. -/
theorem decode_fst {dec : Decoder} (herr : dec.err = none) (source : List UInt8) :
    (dec.decode source).1 = firstValue (dec.buf ++ source) := by
  have hreads : Reads dec source (dec.readValue source 0 {}) :=
    reads_readValue (Nat.zero_le _) (by rw [List.take_zero, scan])
  rw [decode, herr]
  simp only
  generalize dec.readValue source 0 {} = read at hreads ⊢
  obtain ⟨result, dec', source'⟩ := read
  rw [firstValue, ← hreads.found]
  cases result with
  | error e => rfl
  | ok n =>
      have hwithin := hreads.within n rfl
      have htake : (dec.buf ++ source).take n = dec'.buf.take n := by
        rw [← hreads.bytes, List.take_append_of_le_length hwithin]
      simp only [Except.map]
      rw [htake]

theorem decode_fst_of_clean {dec : Decoder} (hclean : dec.Clean) (source : List UInt8) :
    (dec.decode source).1 = firstValue source := by
  rw [decode_fst hclean.1, firstValue_spaces_append hclean.2]

/-- A decoder that has read one value with nothing but space behind it is ready for the next. -/
theorem clean_decode {dec : Decoder} {source : List UInt8} (hclean : dec.Clean)
    (hone : OneValue source) : (dec.decode source).2.1.Clean := by
  obtain ⟨n, hlength, hspaces⟩ := hone
  have hreads : Reads dec source (dec.readValue source 0 {}) :=
    reads_readValue (Nat.zero_le _) (by rw [List.take_zero, scan])
  have hfound := hreads.found
  rw [valueLength_spaces_append hclean.2, hlength] at hfound
  rw [decode, hclean.1]
  simp only
  generalize dec.readValue source 0 {} = read at hreads hfound ⊢
  obtain ⟨result, dec', source'⟩ := read
  obtain rfl : result = .ok (dec.buf.length + n) := hfound
  refine ⟨(hreads.err _ rfl).trans hclean.1, fun c hc => hspaces c ?_⟩
  have hdrop : dec'.buf.drop (dec.buf.length + n) ++ source' = source.drop n := by
    rw [← List.drop_append_of_le_length (hreads.within _ rfl), hreads.bytes,
      List.drop_length_add_append]
  rw [← hdrop]
  exact List.mem_append_left _ hc

end Decoder

end JsonStream
