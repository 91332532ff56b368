import Picket.DockerLogs

/-!
# Decoding what Docker encodes

A frame is read by its length alone, so a stream that is cut off is read like the whole one up to
the cut, and then ends. The limit on all frames together is looked at before a frame is written.
-/

namespace Picket.Docker

namespace LogFrame

theorem bigEndian_putUint32 {n : ℕ} (hn : n < 2 ^ 32) : bigEndianUint32 (putUint32 n) = n := by
  simp only [putUint32, bigEndianUint32, Fin.val_ofNat]
  omega

theorem frameLen_lt (f : LogFrame) : f.payload.length < 2 ^ 32 := by
  have hle := f.length_le
  rw [maxLogFrameSize] at hle
  omega

/-! ### One frame -/

theorem length_header (f : LogFrame) : f.header.length = 8 := rfl

theorem frameLen_header (f : LogFrame) (rest : List Uint8) :
    bigEndianUint32 (((f.header ++ rest).take 8).drop 4) = f.payload.length := by
  rw [List.take_append_of_le_length (by rw [length_header]), List.take_of_length_le (by rfl)]
  exact bigEndian_putUint32 f.frameLen_lt

theorem decodeFrames_short {reader : List Uint8} (hshort : reader.length < 8)
    (builder : List Uint8) (totalBytesRead : ℕ) :
    decodeFrames reader builder totalBytesRead = (builder, none) := by
  rw [decodeFrames, dif_pos hshort]

/-- What is done with a frame, of which the header has been read. -/
theorem decodeFrames_header (f : LogFrame) (rest builder : List Uint8) (totalBytesRead : ℕ) :
    decodeFrames (f.header ++ rest) builder totalBytesRead =
      if maxTotalLogSize < totalBytesRead + f.payload.length ∧ f.payload ≠ [] then (builder, none)
      else if rest.length < f.payload.length then (builder ++ rest, none)
      else
        decodeFrames (rest.drop f.payload.length) (builder ++ rest.take f.payload.length)
          (totalBytesRead + f.payload.length) := by
  rw [decodeFrames, dif_neg (by rw [List.length_append, length_header]; omega)]
  have hdrop : (f.header ++ rest).drop 8 = rest := by
    rw [← f.length_header, List.drop_left]
  simp only [frameLen_header, hdrop]
  by_cases hempty : f.payload = []
  · simp [hempty]
  · have hne : f.payload.length ≠ 0 := mt List.length_eq_zero_iff.mp hempty
    rw [if_neg hne, if_neg (Nat.not_lt.mpr f.length_le)]
    simp only [hempty, ne_eq, not_false_eq_true, and_true]

/-! ### What is marked -/

theorem map_fst_marked (shown : Bool) (f : LogFrame) :
    (f.marked shown).map Prod.fst = f.encode := by
  simp [marked, encode, Function.comp_def]

theorem filter_marked_false (cut : ℕ) (frames : List LogFrame) :
    ((frames.flatMap (marked false)).take cut).filter Prod.snd = [] := by
  rw [List.filter_eq_nil_iff]
  intro entry hentry
  have hmem := List.mem_of_mem_take hentry
  simp only [marked, List.mem_flatMap, List.mem_append, List.mem_map] at hmem
  obtain ⟨f, -, ⟨b, -, rfl⟩ | ⟨b, -, rfl⟩⟩ := hmem <;> simp

theorem filter_marked_header (cut : ℕ) (f : LogFrame) :
    ((f.header.map fun b => (b, false)).take cut).filter Prod.snd = [] := by
  rw [List.filter_eq_nil_iff]
  intro entry hentry
  obtain ⟨b, -, rfl⟩ := List.mem_map.mp (List.mem_of_mem_take hentry)
  simp

theorem filter_marked_payload (cut : ℕ) (payload : List Uint8) :
    (((payload.map fun b => (b, true)).take cut).filter Prod.snd).map Prod.fst =
      payload.take cut := by
  rw [List.filter_eq_self.mpr, ← List.map_take, List.map_map]
  · exact List.map_id _
  · intro entry hentry
    obtain ⟨b, -, rfl⟩ := List.mem_map.mp (List.mem_of_mem_take hentry)
    rfl

theorem markedFrames_fits {budget : ℕ} {f : LogFrame} (hfits : f.payload.length ≤ budget)
    (frames : List LogFrame) :
    markedFrames budget (f :: frames) =
      f.header.map (·, false) ++
        (f.payload.map (·, true) ++ markedFrames (budget - f.payload.length) frames) := by
  simp only [markedFrames, Budget.takeWithin, Budget.dropWithin, if_pos hfits, List.flatMap_cons,
    marked, List.append_assoc]

theorem markedFrames_not_fits {budget : ℕ} {f : LogFrame} (hfits : ¬ f.payload.length ≤ budget)
    (frames : List LogFrame) :
    markedFrames budget (f :: frames) = (f :: frames).flatMap (marked false) := by
  simp only [markedFrames, Budget.takeWithin, Budget.dropWithin, if_neg hfits, List.flatMap_nil,
    List.nil_append]

theorem markedFrames_header (budget : ℕ) (f : LogFrame) (frames : List LogFrame) :
    ∃ rest, markedFrames budget (f :: frames) = f.header.map (·, false) ++ rest := by
  by_cases hfits : f.payload.length ≤ budget
  · exact ⟨_, markedFrames_fits hfits frames⟩
  · exact ⟨_, by rw [markedFrames_not_fits hfits, List.flatMap_cons, marked, List.append_assoc]⟩

theorem shown_after_header (f : LogFrame) (n : ℕ) (rest : List (Uint8 × Bool)) :
    ((((f.header.map (·, false) ++ rest).take (8 + n)).filter Prod.snd).map Prod.fst) =
      ((rest.take n).filter Prod.snd).map Prod.fst := by
  have hlength : (f.header.map fun b => (b, false)).length = 8 := by
    rw [List.length_map, length_header]
  have hheader := filter_marked_header 8 f
  rw [List.take_of_length_le hlength.le] at hheader
  rw [← hlength, List.take_length_add_append, List.filter_append, hheader, List.nil_append]

/-- **A stream that is cut off shows what is before the cut.** -/
theorem decodeFrames_take (frames : List LogFrame) (cut : ℕ) (builder : List Uint8)
    {totalBytesRead : ℕ} (htotal : totalBytesRead ≤ maxTotalLogSize) :
    decodeFrames ((frames.flatMap encode).take cut) builder totalBytesRead =
      (builder ++ (((markedFrames (maxTotalLogSize - totalBytesRead) frames).take cut).filter
        Prod.snd).map Prod.fst, none) := by
  induction frames generalizing cut builder totalBytesRead with
  | nil =>
      rw [List.flatMap_nil, List.take_nil, decodeFrames_short (by simp)]
      simp [markedFrames, Budget.takeWithin, Budget.dropWithin]
  | cons f frames ih =>
      rw [List.flatMap_cons, encode, List.append_assoc]
      by_cases hheader : cut < 8
      · -- not even the header of the frame is there
        obtain ⟨rest, hrest⟩ := markedFrames_header (maxTotalLogSize - totalBytesRead) f frames
        have hlength : cut ≤ (f.header.map fun b => (b, false)).length := by
          rw [List.length_map, length_header]
          omega
        rw [hrest, List.take_append_of_le_length hlength, filter_marked_header,
          decodeFrames_short (by rw [List.length_take]; omega)]
        simp
      · obtain ⟨n, rfl⟩ := Nat.exists_eq_add_of_le (Nat.not_lt.mp hheader)
        have htake : (f.header ++ (f.payload ++ frames.flatMap encode)).take (8 + n) =
            f.header ++ (f.payload ++ frames.flatMap encode).take n := by
          rw [← f.length_header, List.take_length_add_append]
        rw [htake, decodeFrames_header]
        by_cases hfits : f.payload.length ≤ maxTotalLogSize - totalBytesRead
        · have hlimit : totalBytesRead + f.payload.length ≤ maxTotalLogSize := by omega
          rw [if_neg (by omega), markedFrames_fits hfits, shown_after_header]
          by_cases hpayload : n < f.payload.length
          · -- the cut is in the payload
            rw [if_pos (by rw [List.length_take]; omega),
              List.take_append_of_le_length hpayload.le,
              List.take_append_of_le_length (by rw [List.length_map]; exact hpayload.le),
              filter_marked_payload]
          · obtain ⟨m, rfl⟩ := Nat.exists_eq_add_of_le (Nat.not_lt.mp hpayload)
            have hmarked := filter_marked_payload f.payload.length f.payload
            rw [List.take_of_length_le (by rw [List.length_map]), List.take_length] at hmarked
            rw [List.take_length_add_append, if_neg (by rw [List.length_append]; omega),
              List.drop_left, List.take_left, ih m _ hlimit]
            have hlength : (f.payload.map fun b => (b, true)).length = f.payload.length :=
              List.length_map _
            rw [← hlength, List.take_length_add_append, hlength, List.filter_append,
              List.map_append, hmarked, List.append_assoc, Nat.sub_sub]
        · have hne : f.payload ≠ [] := by
            rintro hempty
            rw [hempty] at hfits
            exact hfits (Nat.zero_le _)
          rw [if_pos ⟨by omega, hne⟩, markedFrames_not_fits hfits, filter_marked_false]
          simp

/-! ### The whole stream -/

theorem map_fst_markedFrames (budget : ℕ) (frames : List LogFrame) :
    (markedFrames budget frames).map Prod.fst = frames.flatMap encode := by
  rw [markedFrames, List.map_append, List.map_flatMap, List.map_flatMap]
  simp only [map_fst_marked]
  rw [← List.flatMap_append, Budget.takeWithin_append_dropWithin]

theorem filter_markedFrames (budget : ℕ) (frames : List LogFrame) :
    ((markedFrames budget frames).filter Prod.snd).map Prod.fst =
      (Budget.takeWithin (·.payload.length) budget frames).flatMap (·.payload) := by
  have hdropped := filter_marked_false
    ((Budget.dropWithin (·.payload.length) budget frames).flatMap (marked false)).length
    (Budget.dropWithin (·.payload.length) budget frames)
  rw [List.take_length] at hdropped
  rw [markedFrames, List.filter_append, hdropped, List.append_nil, List.filter_flatMap,
    List.map_flatMap]
  refine List.flatMap_congr fun f _ => ?_
  have hheader := filter_marked_header 8 f
  rw [List.take_of_length_le (by rw [List.length_map, length_header])] at hheader
  have hpayload := filter_marked_payload f.payload.length f.payload
  rw [List.take_of_length_le (by rw [List.length_map]), List.take_length] at hpayload
  rw [marked, List.filter_append, hheader, List.nil_append, hpayload]

theorem decode_take (frames : List LogFrame) (cut : ℕ) :
    decodeDockerLogStream ((frames.flatMap encode).take cut) true =
      (shownBefore cut frames, none) := by
  rw [decodeDockerLogStream, if_pos rfl, decodeFrames_take frames cut [] (Nat.zero_le _)]
  rfl

theorem decode_all (frames : List LogFrame) :
    decodeDockerLogStream (frames.flatMap encode) true =
      ((kept frames).flatMap (·.payload), none) := by
  have hall := decode_take frames (frames.flatMap encode).length
  rw [List.take_length] at hall
  rw [hall, shownBefore, List.take_of_length_le, filter_markedFrames, kept]
  rw [← map_fst_markedFrames maxTotalLogSize frames, List.length_map]

/-! ### Detection -/

/-- A stream is recognised by its first header. -/
theorem detect_header (f : LogFrame) (rest : List Uint8) :
    detectDockerMultiplexedStream (f.header ++ rest) = true := by
  have htake : (f.header ++ rest).take 8 = f.header := List.take_left' f.length_header
  have hstream : ¬ (f.stream ≠ 1 ∧ f.stream ≠ 2) := fun hne => f.stream_eq.elim hne.1 hne.2
  have hsize : ¬ (putUint32 f.payload.length).length < 4 := Nat.lt_irrefl 4
  rw [detectDockerMultiplexedStream, htake, header]
  simp only [if_neg hsize, if_neg hstream, ne_eq, not_true_eq_false, or_self, if_false,
    bigEndian_putUint32 f.frameLen_lt]
  exact decide_eq_true f.length_le

theorem readLogs_of_detect {body : List Uint8} (hdetect : detectDockerMultiplexedStream body = true)
    (contentType : String) : readLogs contentType body = decodeDockerLogStream body true := by
  rw [readLogs, hdetect, Bool.or_true]

/-! ### Any stream -/

theorem length_decodeFrames (reader builder : List Uint8) (totalBytesRead : ℕ)
    (hbuilder : builder.length = totalBytesRead) (htotal : totalBytesRead ≤ maxTotalLogSize) :
    (decodeFrames reader builder totalBytesRead).1.length ≤ maxTotalLogSize := by
  fun_induction decodeFrames reader builder totalBytesRead with
  | case1 => exact hbuilder.trans_le htotal
  | case2 _ _ _ _ _ _ _ ih => exact ih hbuilder htotal
  | case3 => exact hbuilder.trans_le htotal
  | case4 => exact hbuilder.trans_le htotal
  | case5 =>
      rw [List.length_append]
      omega
  | case6 _ _ _ _ _ _ _ _ _ _ ih =>
      refine ih ?_ (by omega)
      rw [List.length_append, List.length_take]
      omega

theorem length_decodeDockerLogStream (reader : List Uint8) (multiplexed : Bool) :
    (decodeDockerLogStream reader multiplexed).1.length ≤ maxTotalLogSize := by
  rw [decodeDockerLogStream]
  cases multiplexed with
  | true => exact length_decodeFrames reader [] 0 rfl (Nat.zero_le _)
  | false => exact List.length_take_le _ _

/-- Of an encoded stream that has its first header, or has no frames, all is read in frames. -/
theorem readLogs_take (contentType : String) (frames : List LogFrame) {cut : ℕ} (hcut : 8 ≤ cut) :
    readLogs contentType ((frames.flatMap encode).take cut) = (shownBefore cut frames, none) := by
  rw [← decode_take]
  cases frames with
  | nil =>
      have hraw : ∀ multiplexed, decodeDockerLogStream [] multiplexed = ([], none) := by
        intro multiplexed
        cases multiplexed with
        | true => exact decodeFrames_short (by simp) [] 0
        | false => rfl
      rw [List.flatMap_nil, List.take_nil, readLogs, hraw, hraw]
  | cons f frames =>
      obtain ⟨n, rfl⟩ := Nat.exists_eq_add_of_le hcut
      refine readLogs_of_detect ?_ contentType
      rw [List.flatMap_cons, encode, List.append_assoc, ← f.length_header,
        List.take_length_add_append]
      exact detect_header f _

/-- **Decoding of logs.** The payload of the longest start of the frames that fits is read, however
the stream is recognised; of a stream that is cut off, what of it is before the cut; and never more
than the limit. -/
theorem readLogs_frames (contentType : String) (frames : List LogFrame) :
    Budget.IsLongestWithin (·.payload.length) maxTotalLogSize (kept frames) frames ∧
    readLogs contentType (frames.flatMap encode) =
      ((kept frames).flatMap (·.payload), none) ∧
    ((markedFrames maxTotalLogSize frames).map Prod.fst = frames.flatMap encode ∧
      ((markedFrames maxTotalLogSize frames).filter Prod.snd).map Prod.fst =
        (kept frames).flatMap (·.payload)) ∧
    (∀ cut, 8 ≤ cut → readLogs contentType ((frames.flatMap encode).take cut) =
      (shownBefore cut frames, none)) ∧
    ∀ reader multiplexed,
      (decodeDockerLogStream reader multiplexed).1.length ≤ maxTotalLogSize := by
  refine ⟨Budget.isLongestWithin_takeWithin _ _, ?_,
    ⟨map_fst_markedFrames _ _, filter_markedFrames _ _⟩,
    fun cut hcut => readLogs_take contentType frames hcut, length_decodeDockerLogStream⟩
  have hall := readLogs_take contentType frames
    (Nat.le_add_right 8 (frames.flatMap encode).length)
  have htake := decode_take frames (8 + (frames.flatMap encode).length)
  have hlength : (frames.flatMap encode).length ≤ 8 + (frames.flatMap encode).length := by omega
  rw [List.take_of_length_le hlength] at hall htake
  rw [hall, ← htake, decode_all]

end LogFrame

end Picket.Docker
