import LanguageBroker.Proofs.FramedMessages

/-!
Streams of messages that are cut off. Wherever the cut lies, in the name of a header, among its
digits, in a line end or in a body, the messages whose frames are whole are read and nothing else.
What is left of a frame never reads as a message: a header line that is cut off may still state a
smaller length, but no blank line follows it, and behind a blank line, which may have lost its end,
the body is shorter than was stated. Only a cut between two frames looks like the stream's end.
-/

namespace LanguageBroker.Text

theorem trim_cons_ne_nil {c : Char} (solid : isBlank c = false) (cs : List Char) :
    (trim (c :: cs)).isEmpty = false := by
  have front : trimFront (c :: cs) = c :: cs := by simp [trimFront, solid]
  refine Bool.eq_false_iff.mpr fun blank => ?_
  rw [trim, front, trimBack, List.isEmpty_iff, List.reverse_eq_nil_iff,
    List.dropWhile_eq_nil_iff] at blank
  exact absurd (blank c (by simp)) (by simp [solid])

/-- A character of one byte is read for what it is. -/
theorem decode_cons {b : UInt8} {bs : List UInt8} {cs : List Char} (small : b < 0x80)
    (reads : decode (b :: bs) = .ok cs) : ∃ ds, cs = Char.ofNat b.toNat :: ds := by
  have front : lead b bs = .char (Char.ofNat b.toNat) bs := by simp [lead, small]
  simp only [decode, List.length_cons, decodeFrom, front] at reads
  generalize decodeFrom bs.length _ bs = rest at reads
  cases rest with
  | error fault => simp [bind, Except.bind] at reads
  | ok ds => exact ⟨ds, (Except.ok.inj reads).symm⟩

end LanguageBroker.Text

namespace LanguageBroker.Frame

variable {line bytes rest : List UInt8} {v : Json} {messages : List Json} {cut j k n : Nat}

theorem splitLine_unended (apart : lineEnd ∉ line) : splitLine line = (line, []) := by
  induction line with
  | nil => rfl
  | cons b line ih =>
    rw [List.mem_cons, not_or] at apart
    simp [splitLine, Ne.symm apart.1, ih apart.2]

@[simp] theorem headers_nil (length : Option Nat) : headers length [] = .error .headersCut := by
  rw [headers]

/-- No blank line follows a line that is cut off, whatever it states. -/
theorem headers_unended (shown : line ≠ []) (apart : lineEnd ∉ line)
    (content : ∀ cs, Text.decode line = .ok cs → (Text.trim cs).isEmpty = false)
    (length : Option Nat) : ∃ cause, headers length line = .error cause := by
  obtain ⟨b, bs, rfl⟩ := List.exists_cons_of_ne_nil shown
  rw [headers, splitLine_unended apart]
  dsimp only
  cases text : Text.decode (b :: bs) with
  | error fault => exact ⟨_, rfl⟩
  | ok cs =>
    simp only [content cs text, Bool.false_eq_true, if_false, headers_nil]
    split
    · exact ⟨_, rfl⟩
    · split <;> exact ⟨_, rfl⟩

theorem read_of_headers_error {cause : FrameError} (shown : bytes ≠ [])
    (fails : headers none bytes = .error cause) : read bytes = .error cause := by
  obtain ⟨b, bs, rfl⟩ := List.exists_cons_of_ne_nil shown
  simp [read, fails]

/-- A body shorter than was stated is none. -/
theorem read_of_short_body (stated : headers none bytes = .ok (some n, rest))
    (allowed : n ≤ maxBodyLength) (short : rest.length < n) : read bytes = .error .bodyCut := by
  rcases bytes with _ | ⟨b, bs⟩
  · simp at stated
  · simp only [read, stated]
    rw [if_neg (by omega), if_pos short]

theorem Fits.body_pos (fits : Fits v) : 0 < (Text.encode v.chars).length := by
  refine List.length_pos_of_ne_nil fun empty => ?_
  have reads := fits.ofBytes?
  rw [empty] at reads
  simp [show Json.ofBytes? [] = none from by decide] at reads

/-- The header line that states a length, without its end. -/
def lengthLine (n : Nat) : List UInt8 := Text.encode (statement n ++ ['\r'])

theorem lineEnd_not_mem_lengthLine (n : Nat) : lineEnd ∉ lengthLine n :=
  lineEnd_not_mem_encode (by simpa using not_mem_statement n (by decide) (by decide))

/-- It begins with the first letter of the header's name. -/
theorem exists_lengthLine (n : Nat) : ∃ bs, lengthLine n = 0x43 :: bs := ⟨_, rfl⟩

/-- The header line is cut off. -/
theorem read_cut_line (begun : 0 < k) (n : Nat) :
    ∃ cause, read ((lengthLine n).take k) = .error cause := by
  obtain ⟨k, rfl⟩ := Nat.exists_eq_add_of_le' begun
  obtain ⟨bs, first⟩ := exists_lengthLine n
  have shown : (lengthLine n).take (k + 1) ≠ [] := by simp [first]
  have content (cs : List Char) (reads : Text.decode ((lengthLine n).take (k + 1)) = .ok cs) :
      (Text.trim cs).isEmpty = false := by
    rw [first, List.take_succ_cons] at reads
    obtain ⟨ds, rfl⟩ := Text.decode_cons (by decide) reads
    exact Text.trim_cons_ne_nil (by decide) ds
  obtain ⟨cause, fails⟩ := headers_unended shown
    (fun there => lineEnd_not_mem_lengthLine n (List.mem_of_mem_take there)) content none
  exact ⟨cause, read_of_headers_error shown fails⟩

/-- Nothing follows the header line. -/
theorem read_cut_headers (small : n < lengthBound) :
    read (lengthLine n ++ [lineEnd]) = .error .headersCut :=
  read_of_headers_error (by simp) (by rw [lengthLine, headers_length small, headers_nil])

/-- The blank line has lost its end, and ends the headers all the same. -/
theorem read_cut_blank (allowed : n ≤ maxBodyLength) (stated : 0 < n) :
    read (lengthLine n ++ lineEnd :: Text.encode ['\r']) = .error .bodyCut := by
  have small : n < lengthBound := Nat.lt_of_le_of_lt allowed (by decide)
  have blank : headers (some n) (Text.encode ['\r']) = .ok (some n, []) := by
    have unended : splitLine [0x0D] = ([0x0D], []) := rfl
    have text : Text.decode [0x0D] = .ok ['\r'] := rfl
    rw [show Text.encode ['\r'] = [0x0D] from rfl, headers, unended]
    simp only [text]
    rfl
  have bodiless : headers none (lengthLine n ++ lineEnd :: Text.encode ['\r']) =
      .ok (some n, []) := by rw [lengthLine, headers_length small, blank]
  exact read_of_short_body bodiless allowed stated

/-- The body is cut off. -/
theorem read_cut_body (allowed : n ≤ maxBodyLength) (short : rest.length < n) :
    read (header n rest) = .error .bodyCut :=
  read_of_short_body (headers_header (Nat.lt_of_le_of_lt allowed (by decide)) rest) allowed short

/-- What is left of a frame that is cut off is no message, nor the end of the stream. -/
theorem read_cut (fits : Fits v) (begun : 0 < k) (short : k < (write v).length) :
    ∃ cause, read ((write v).take k) = .error cause := by
  have split : write v = lengthLine (Text.encode v.chars).length ++
      lineEnd :: 0x0D :: lineEnd :: Text.encode v.chars := by
    rw [← List.append_nil (write v), write_append, List.append_nil]
    rfl
  rw [split] at short ⊢
  rcases Nat.lt_or_ge (lengthLine (Text.encode v.chars).length).length k with beyond | within
  · obtain ⟨j, rfl⟩ := Nat.exists_eq_add_of_lt beyond
    rw [Nat.add_assoc, List.take_length_add_append, List.take_succ_cons]
    rcases j with _ | _ | j
    · exact ⟨_, read_cut_headers (Nat.lt_of_le_of_lt fits.short (by decide))⟩
    · exact ⟨_, read_cut_blank fits.short fits.body_pos⟩
    · have left : ((Text.encode v.chars).take j).length < (Text.encode v.chars).length := by
        simp only [List.length_append, List.length_cons] at short
        rw [List.length_take]
        omega
      exact ⟨_, read_cut_body fits.short left⟩
  · rw [List.take_append_of_le_length within]
    exact read_cut_line begun _

/-- The number of bytes up to the end of the first `n` frames. -/
def boundary (messages : List Json) (n : Nat) : Nat := ((messages.take n).flatMap write).length

@[simp] theorem boundary_zero (messages : List Json) : boundary messages 0 = 0 := by
  simp [boundary]

@[simp] theorem boundary_succ (v : Json) (messages : List Json) (n : Nat) :
    boundary (v :: messages) (n + 1) = (write v).length + boundary messages n := by
  simp [boundary]

/-- What is left behind the first `n` frames when the stream is cut off. -/
def remains (messages : List Json) (cut n : Nat) : List UInt8 :=
  ((messages.flatMap write).take cut).drop (boundary messages n)

theorem remains_succ (whole : (write v).length ≤ cut) (messages : List Json) (n : Nat) :
    remains (v :: messages) cut (n + 1) = remains messages (cut - (write v).length) n := by
  obtain ⟨k, rfl⟩ := Nat.exists_eq_add_of_le whole
  rw [remains, List.flatMap_cons, boundary_succ, List.take_length_add_append,
    List.drop_length_add_append, Nat.add_sub_cancel_left, remains]

/-- How many frames are whole before the cut. -/
def wholeFrames : List Json → Nat → Nat
  | [], _ => 0
  | v :: messages, cut =>
    if (write v).length ≤ cut then wholeFrames messages (cut - (write v).length) + 1 else 0

theorem wholeFrames_le (messages : List Json) (cut : Nat) :
    wholeFrames messages cut ≤ messages.length := by
  induction messages generalizing cut with
  | nil => exact Nat.le_refl 0
  | cons v messages ih =>
    rw [wholeFrames, List.length_cons]
    split
    · exact Nat.succ_le_succ (ih _)
    · exact Nat.zero_le _

/-- They are those that end before the cut. -/
theorem boundary_le_iff (messages : List Json) (cut : Nat) (within : j ≤ messages.length) :
    boundary messages j ≤ cut ↔ j ≤ wholeFrames messages cut := by
  induction messages generalizing cut j with
  | nil => simp_all [wholeFrames]
  | cons v messages ih =>
    rcases j with _ | j
    · simp
    · have rest := ih (cut - (write v).length) (Nat.le_of_succ_le_succ within)
      rw [boundary_succ, wholeFrames]
      split <;> omega

/-- A cut at the end of a frame is one at the end of the last whole frame. -/
theorem boundary_wholeFrames (messages : List Json) :
    boundary messages (wholeFrames messages (boundary messages j)) = boundary messages j := by
  induction messages generalizing j with
  | nil => simp [boundary]
  | cons v messages ih =>
    rcases j with _ | j
    · have shown := length_write_pos v
      rw [boundary_zero, wholeFrames, if_neg (by omega), boundary_zero]
    · rw [boundary_succ, wholeFrames, if_pos (Nat.le_add_right _ _), Nat.add_sub_cancel_left,
        boundary_succ, ih]

/-- A whole frame is read, and what is left behind it is left. -/
theorem read_remains (fits : ∀ v ∈ messages, Fits v) (whole : j < wholeFrames messages cut) :
    read (remains messages cut j) =
      .ok (messages[j]?.map fun v => (v, remains messages cut (j + 1))) := by
  induction messages generalizing cut j with
  | nil => simp [wholeFrames] at whole
  | cons v messages ih =>
    have first := fits v List.mem_cons_self
    rw [wholeFrames] at whole
    split at whole
    · next ends =>
      rcases j with _ | j
      · obtain ⟨k, rfl⟩ := Nat.exists_eq_add_of_le ends
        rw [remains_succ ends, remains, boundary_zero, List.drop_zero, List.flatMap_cons,
          List.take_length_add_append, read_write first.short first.ofBytes?,
          Nat.add_sub_cancel_left, remains, boundary_zero, List.drop_zero]
        rfl
      · rw [remains_succ ends, remains_succ ends, List.getElem?_cons_succ]
        exact ih (fun u there => fits u (List.mem_cons_of_mem v there))
          (Nat.lt_of_succ_lt_succ whole)
    · simp at whole

/-- Behind the last whole frame the stream is over, or it holds a part of the next one. -/
theorem remains_wholeFrames (messages : List Json)
    (inside : cut ≤ (messages.flatMap write).length) :
    cut = boundary messages (wholeFrames messages cut) ∧
        remains messages cut (wholeFrames messages cut) = [] ∨
      ∃ v ∈ messages, ∃ k, 0 < k ∧ k < (write v).length ∧
        cut = boundary messages (wholeFrames messages cut) + k ∧
        remains messages cut (wholeFrames messages cut) = (write v).take k := by
  induction messages generalizing cut with
  | nil =>
    have start : cut = 0 := by simpa using inside
    exact .inl ⟨start, by simp [remains]⟩
  | cons v messages ih =>
    rw [List.flatMap_cons, List.length_append] at inside
    rw [wholeFrames]
    split
    · next ends =>
      rw [remains_succ ends, boundary_succ]
      rcases ih (Nat.sub_le_iff_le_add'.mpr inside) with ⟨here, left⟩ | ⟨u, there, k, h⟩
      · exact .inl ⟨by omega, left⟩
      · obtain ⟨begun, short, here, left⟩ := h
        exact .inr ⟨u, List.mem_cons_of_mem v there, k, begun, short, by omega, left⟩
    · next part =>
      have left : remains (v :: messages) cut 0 = (write v).take cut := by
        rw [remains, boundary_zero, List.drop_zero, List.flatMap_cons,
          List.take_append_of_le_length (by omega)]
      rcases Nat.eq_zero_or_pos cut with rfl | begun
      · exact .inl ⟨by simp, by simp [left]⟩
      · exact .inr ⟨v, List.mem_cons_self, cut, begun, by omega, by simp, left⟩

theorem wholeFrames_le_cut (messages : List Json) (cut : Nat) : wholeFrames messages cut ≤ cut := by
  induction messages generalizing cut with
  | nil => exact Nat.zero_le cut
  | cons v messages ih =>
    have shown := length_write_pos v
    have rest := ih (cut - (write v).length)
    rw [wholeFrames]
    split <;> omega

/-- The whole frames that are left are read one after the other, and then what is left ends it. -/
theorem go_remains (fits : ∀ v ∈ messages, Fits v) {ending : Ending}
    (ends : ∀ fuel,
      readAll.go (fuel + 1) (remains messages cut (wholeFrames messages cut)) = ([], ending))
    {fuel : Nat} (within : n ≤ wholeFrames messages cut)
    (enough : wholeFrames messages cut < n + fuel) :
    readAll.go fuel (remains messages cut n) =
      ((messages.take (wholeFrames messages cut)).drop n, ending) := by
  induction fuel generalizing n with
  | zero => omega
  | succ fuel ih =>
    rcases Nat.eq_or_lt_of_le within with rfl | more
    · rw [ends fuel, List.drop_eq_nil_of_le (List.length_take_le _ _)]
    · have inside := Nat.lt_of_lt_of_le more (wholeFrames_le messages cut)
      have rest := ih more (by omega)
      have shown : n < (messages.take (wholeFrames messages cut)).length := by
        rw [List.length_take]
        omega
      rw [readAll.go, read_remains fits more, List.getElem?_eq_getElem inside,
        List.drop_eq_getElem_cons shown, List.getElem_take]
      simp only [Option.map_some, rest]

/-- A stream of messages that is cut off anywhere gives the messages whose frames end before the
cut, one read after the other, and no other. It then ends cleanly where the cut lies between two
frames, and with an error anywhere else. -/
theorem cut_stream_gives_whole_messages (messages : List Json) (fits : ∀ v ∈ messages, Fits v)
    (cut : Nat) (inside : cut ≤ (messages.flatMap write).length) :
    ∃ n ≤ messages.length,
      (∀ j ≤ messages.length, boundary messages j ≤ cut ↔ j ≤ n) ∧
      (∀ j < n, read (remains messages cut j) =
        .ok (messages[j]?.map fun v => (v, remains messages cut (j + 1)))) ∧
      (cut = boundary messages n ∧ read (remains messages cut n) = .ok none ∧
          readAll ((messages.flatMap write).take cut) = (messages.take n, .clean) ∨
        (∀ j, boundary messages j ≠ cut) ∧
          ∃ cause, read (remains messages cut n) = .error cause ∧
            readAll ((messages.flatMap write).take cut) = (messages.take n, .fault cause)) := by
  have reads {ending : Ending} (ends : ∀ fuel,
      readAll.go (fuel + 1) (remains messages cut (wholeFrames messages cut)) = ([], ending)) :
      readAll ((messages.flatMap write).take cut) =
        (messages.take (wholeFrames messages cut), ending) := by
    have bound := wholeFrames_le_cut messages cut
    have all : readAll.go (cut + 1) (remains messages cut 0) = _ :=
      go_remains fits ends (Nat.zero_le _) (by omega)
    rw [remains, boundary_zero, List.drop_zero, List.drop_zero] at all
    rw [readAll, List.length_take_of_le inside, all]
  refine ⟨wholeFrames messages cut, wholeFrames_le messages cut,
    fun j within => boundary_le_iff messages cut within, fun j whole => read_remains fits whole, ?_⟩
  rcases remains_wholeFrames messages inside with ⟨here, left⟩ | ⟨v, there, k, begun, short, rest⟩
  · exact .inl ⟨here, by rw [left]; rfl, reads fun fuel => by rw [left]; rfl⟩
  · obtain ⟨beyond, left⟩ := rest
    obtain ⟨cause, fails⟩ := read_cut (fits v there) begun short
    rw [← left] at fails
    refine .inr ⟨fun j here => ?_, cause, fails, reads fun fuel => by rw [readAll.go, fails]⟩
    have last := boundary_wholeFrames messages (j := j)
    rw [here] at last
    omega

/-- Cut between the two digits of the second length, the stream gives the first message only. -/
theorem lookalikes_cut_in_digits :
    (∀ v ∈ lookalikes, Fits v) ∧ 100 ≤ (lookalikes.flatMap write).length ∧
      ∃ cause, readAll ((lookalikes.flatMap write).take 100) =
        (lookalikes.take 1, .fault cause) := by
  have inside : 100 ≤ (lookalikes.flatMap write).length := by decide +kernel
  obtain ⟨n, -, whole, -, ends⟩ :=
    cut_stream_gives_whole_messages lookalikes lookalikes_fit 100 inside
  obtain rfl : n = 1 := by
    have one : 1 ≤ n := (whole 1 (by decide)).mp (by decide)
    have two : ¬ 2 ≤ n := fun more => absurd ((whole 2 (by decide)).mpr more) (by decide +kernel)
    omega
  rcases ends with ⟨here, -⟩ | ⟨-, cause, -, reads⟩
  · exact absurd here (by decide)
  · exact ⟨lookalikes_fit, inside, cause, reads⟩

end LanguageBroker.Frame
