import Picket.SshTunnels

/-!
# Streams that are left open

What the frames of a tunnel say about a stream: it is opened by an open frame and closed by an EOF
or close frame, and nothing else counts. The agent follows this for what is under way, and the same
count over all frames ever forwarded says what the tunnel has left open.
-/

namespace Picket

/-- Whether a stream that a tunnel has opened is still open after a frame, as far as the frames of
the tunnel tell. -/
def Frame.track (token : ℕ) (streamID : Uint32) (isOpen : Bool) (frame : Frame) : Bool :=
  if frame.owner = token ∧ frame.msg.streamID = streamID ∧ frame.msg.magic = sshStreamMagic then
    if frame.msg.type = sshStreamOpen then true
    else if frame.msg.type = sshStreamEOF ∨ frame.msg.type = sshStreamClose then false
    else isOpen
  else isOpen

/-- Whether it is open after all of them. -/
def leftOpen (token : ℕ) (streamID : Uint32) (isOpen : Bool) (frames : List Frame) : Bool :=
  frames.foldl (Frame.track token streamID) isOpen

section LeftOpen

variable {token : ℕ} {streamID : Uint32}

theorem leftOpen_append (isOpen : Bool) (frames frames' : List Frame) :
    leftOpen token streamID isOpen (frames ++ frames')
      = leftOpen token streamID (leftOpen token streamID isOpen frames) frames' :=
  List.foldl_append

theorem leftOpen_mono {isOpen isOpen' : Bool} (hle : isOpen → isOpen') {frames : List Frame}
    (hopen : leftOpen token streamID isOpen frames) : leftOpen token streamID isOpen' frames := by
  induction frames generalizing isOpen isOpen' with
  | nil => exact hle hopen
  | cons frame frames ih =>
      refine ih (fun htrack => ?_) hopen
      grind [Frame.track]

theorem track_of_ne {frame : Frame} (hne : frame.owner ≠ token) (isOpen : Bool) :
    frame.track token streamID isOpen = isOpen :=
  if_neg fun h => hne h.1

/-- Only an EOF or close frame for the stream closes it. -/
theorem track_of_open {frame : Frame}
    (hkeep : frame.msg.streamID = streamID → frame.msg.magic = sshStreamMagic →
      ¬(frame.msg.type = sshStreamEOF ∨ frame.msg.type = sshStreamClose)) :
    frame.track token streamID true := by
  unfold Frame.track
  split
  · rename_i hframe
    rw [if_neg (hkeep hframe.2.1 hframe.2.2), ite_self]
  · rfl

theorem leftOpen_filter (isOpen : Bool) (frames : List Frame) :
    leftOpen token streamID isOpen (frames.filter (·.owner = token))
      = leftOpen token streamID isOpen frames := by
  induction frames generalizing isOpen with
  | nil => rfl
  | cons frame frames ih =>
      by_cases howner : frame.owner = token
      · rw [List.filter_cons_of_pos (by simpa using howner)]
        exact ih _
      · rw [List.filter_cons_of_neg (by simpa using howner), ih]
        exact congrArg (leftOpen token streamID · frames) (track_of_ne howner isOpen).symm

theorem leftOpen_congr {frames frames' : List Frame}
    (hfilter : frames.filter (·.owner = token) = frames'.filter (·.owner = token)) (isOpen : Bool) :
    leftOpen token streamID isOpen frames = leftOpen token streamID isOpen frames' := by
  rw [← leftOpen_filter, hfilter, leftOpen_filter]

theorem exists_of_leftOpen {frames : List Frame} (hopen : leftOpen token streamID false frames) :
    ∃ frame ∈ frames, frame.owner = token ∧ frame.msg.streamID = streamID := by
  by_contra hnone
  push Not at hnone
  have hclosed : leftOpen token streamID false frames = false := by
    induction frames with
    | nil => rfl
    | cons frame frames ih =>
        have htrack : frame.track token streamID false = false :=
          if_neg fun h => hnone frame List.mem_cons_self h.1 h.2.1
        rw [leftOpen, List.foldl_cons, htrack] at hopen ⊢
        exact ih hopen fun other hother => hnone other (List.mem_cons_of_mem _ hother)
  rw [hclosed] at hopen
  cases hopen

end LeftOpen

end Picket
