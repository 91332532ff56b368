import Picket.DockerDecode
import Picket.Lib.Transition

/-!
# A bad response fails the responses after it

The decoder keeps two things from one response to the next: the bytes it has read beyond the value,
and the error it has met. Space between values is harmless, so a response is decoded as if it were
the first as long as the ones before it were single values, or could not be read to the end.
-/

namespace Picket

open JsonStream Transition

theorem decode_fst_eq {dm : ResponseDecoder} {resp : ResponseBody}
    (hread : resp.readFails = false) :
    (dm.decode resp).1 = (dm.decoder.decode resp.bytes).1.mapError .json := by
  rw [ResponseDecoder.decode, hread]
  simp only [Bool.false_eq_true, ↓reduceIte]
  rcases dm.decoder.decode resp.bytes with ⟨_ | _, _, _⟩ <;> rfl

theorem decode_snd_eq {dm : ResponseDecoder} {resp : ResponseBody}
    (hread : resp.readFails = false) :
    (dm.decode resp).2 = (dm.decoder.decode resp.bytes).2.1 := by
  rw [ResponseDecoder.decode, hread]
  simp only [Bool.false_eq_true, ↓reduceIte]
  rcases dm.decoder.decode resp.bytes with ⟨_ | _, _, _⟩ <;> rfl

theorem decode_of_readFails {dm : ResponseDecoder} {resp : ResponseBody}
    (hread : resp.readFails = true) : dm.decode resp = (.error .read, dm.decoder) := by
  rw [ResponseDecoder.decode, if_pos hread]

/-! ### Nothing of the earlier responses is left -/

/-- The response does not get to the decoder, or the decoder holds neither an error nor anything but
space. -/
def Undisturbed (dm : ResponseDecoder) (resp : ResponseBody) : Prop :=
  resp.readFails = true ∨ dm.decoder.Clean

instance (dm : ResponseDecoder) (resp : ResponseBody) : Decidable (Undisturbed dm resp) :=
  inferInstanceAs (Decidable (_ ∨ _))

theorem decode_fst_of_undisturbed {dm : ResponseDecoder} {resp : ResponseBody}
    (hundisturbed : Undisturbed dm resp) : (dm.decode resp).1 = decodeAlone resp := by
  cases hread : resp.readFails with
  | true => rw [decodeAlone, decode_of_readFails hread, decode_of_readFails hread]
  | false =>
      have hclean : dm.decoder.Clean := hundisturbed.resolve_left (by simp [hread])
      have hfresh : ({} : Decoder).Clean := ⟨rfl, fun _ hmem => (List.not_mem_nil hmem).elim⟩
      rw [decodeAlone, decode_fst_eq hread, decode_fst_eq hread,
        Decoder.decode_fst_of_clean hclean, Decoder.decode_fst_of_clean hfresh]

theorem results_append {start dm : ResponseDecoder} {resps : List ResponseBody}
    (hrun : Guarded ResponseDecoder.step Undisturbed start resps dm) :
    dm.results = start.results ++ resps.map decodeAlone := by
  induction hrun with
  | nil => simp
  | @cons start next last resp resps hundisturbed hstep _ ih =>
      rw [ResponseDecoder.step, Option.some_inj] at hstep
      subst hstep
      rw [ih, List.map_cons, decode_fst_of_undisturbed hundisturbed, List.append_assoc]
      rfl

/-- **Each response is decoded as if it were alone**, in a run that comes to no response with
something of an earlier one in its way. -/
theorem results_of_guarded {resps : List ResponseBody} {dm : ResponseDecoder}
    (hrun : Guarded ResponseDecoder.step Undisturbed {} resps dm) :
    dm.results = resps.map decodeAlone :=
  results_append hrun

/-- Two values with a new line after each, a body that breaks off between them, and a malformed one
at the end. -/
theorem results_goodThenBad :
    ∃ dm, Guarded ResponseDecoder.step Undisturbed {}
        [⟨ascii "[1]\n", false⟩, ⟨ascii "[2", true⟩, ⟨ascii "[3]\n", false⟩,
          ⟨ascii "[4", false⟩] dm ∧
      dm.results =
        [.ok (ascii "[1]"), .error .read, .ok (ascii "[3]"), .error (.json .unexpectedEOF)] := by
  obtain ⟨dm, hcheck⟩ : ∃ dm, check ResponseDecoder.step Undisturbed {}
      [⟨ascii "[1]\n", false⟩, ⟨ascii "[2", true⟩, ⟨ascii "[3]\n", false⟩,
        ⟨ascii "[4", false⟩] = some dm :=
    Option.isSome_iff_exists.mp (by decide +kernel)
  refine ⟨dm, guarded_of_check hcheck, ?_⟩
  rw [results_of_guarded (guarded_of_check hcheck)]
  decide +kernel

/-- A response that breaks off inside its value is an error, and so is every response after it. -/
theorem not_decodedAlone :
    ¬ ∀ resps : List ResponseBody, ∀ dm, run ResponseDecoder.step {} resps = some dm →
      dm.results = resps.map decodeAlone := by
  intro hall
  let resps : List ResponseBody := [⟨ascii "[1", false⟩, ⟨ascii "[2]", false⟩]
  have hrun : ∃ dm, run ResponseDecoder.step {} resps = some dm ∧
      dm.results = [.error (.json .unexpectedEOF), .error (.json .unexpectedEOF)] := by
    decide +kernel
  have halone : resps.map decodeAlone = [.error (.json .unexpectedEOF), .ok (ascii "[2]")] := by
    decide +kernel
  obtain ⟨dm, hdm, hresults⟩ := hrun
  rw [hall resps dm hdm, halone] at hresults
  simp at hresults

/-! ### Responses that leave nothing behind -/

theorem clean_of_oneValue {dm dm' : ResponseDecoder} {resp : ResponseBody}
    (hclean : dm.decoder.Clean) (hone : resp.readFails = true ∨ OneValue resp.bytes)
    (hstep : dm.step resp = some dm') : dm'.decoder.Clean := by
  rw [ResponseDecoder.step, Option.some_inj] at hstep
  subst hstep
  cases hread : resp.readFails with
  | true => rwa [decode_of_readFails hread]
  | false =>
      rw [decode_snd_eq hread]
      exact Decoder.clean_decode hclean (hone.resolve_left (by simp [hread]))

/-- Responses that are single values or break off in transit keep the condition, whatever the last
one is. -/
theorem guarded_of_oneValue {resps : List ResponseBody} (last : ResponseBody)
    {dm : ResponseDecoder} (hclean : dm.decoder.Clean)
    (hone : ∀ resp ∈ resps, resp.readFails = true ∨ OneValue resp.bytes) :
    ∃ dm', Guarded ResponseDecoder.step Undisturbed dm (resps ++ [last]) dm' := by
  induction resps generalizing dm with
  | nil => exact ⟨_, .cons (.inr hclean) rfl (.nil _)⟩
  | cons resp resps ih =>
      have hnext := clean_of_oneValue hclean (hone resp (by simp)) rfl
      obtain ⟨dm', hrest⟩ := ih hnext fun resp hresp => hone resp (by simp [hresp])
      exact ⟨dm', .cons (.inr hclean) rfl hrest⟩

end Picket
