import CallAtlas.Text.Span
import Mathlib.Data.String.Basic

/-! # Slices of a text

    A slice splits the text it is cut from: so many bytes lie before it, and the rest behind
    it. Of two slices of one text, the one whose bytes lie within those of the other is a
    part of it. A span has no slice only where there is nothing to cut: it is reversed, it
    leaves the text, or one of its ends lies inside a character.
-/

namespace CallAtlas.Text

open String (utf8Len)

/-! ## Section 1: Cuts -/

theorem append_of_dropBytes {cs rest : List Char} {n : Nat} (h : dropBytes cs n = some rest) :
    ∃ before, cs = before ++ rest ∧ utf8Len before = n := by
  fun_induction dropBytes cs n with
  | case1 cs =>
    cases h
    exact ⟨[], rfl, rfl⟩
  | case2 n => cases h
  | case3 c cs n hfits ih =>
    obtain ⟨before, rfl, hlength⟩ := ih h
    refine ⟨c :: before, rfl, ?_⟩
    rw [String.utf8Len_cons, hlength]
    omega
  | case4 c cs n hcut => cases h

theorem append_of_takeBytes {cs part : List Char} {n : Nat} (h : takeBytes cs n = some part) :
    ∃ after, cs = part ++ after ∧ utf8Len part = n := by
  fun_induction takeBytes cs n generalizing part with
  | case1 cs =>
    cases h
    exact ⟨cs, rfl, rfl⟩
  | case2 n => cases h
  | case3 c cs n hfits ih =>
    obtain ⟨rest, hrest, rfl⟩ := Option.map_eq_some_iff.mp h
    obtain ⟨after, rfl, hlength⟩ := ih hrest
    refine ⟨after, rfl, ?_⟩
    rw [String.utf8Len_cons, hlength]
    omega
  | case4 c cs n hcut => cases h

theorem dropBytes_cons (c : Char) (cs : List Char) (n : Nat) :
    dropBytes (c :: cs) (n + c.utf8Size) = dropBytes cs n := by
  obtain ⟨m, hm⟩ : ∃ m, n + c.utf8Size = m + 1 :=
    Nat.exists_eq_add_one.mpr (Nat.add_pos_right n c.utf8Size_pos)
  have hrest : m + 1 - c.utf8Size = n := by omega
  rw [hm, dropBytes, if_pos (by omega), hrest]

theorem takeBytes_cons (c : Char) (cs : List Char) (n : Nat) :
    takeBytes (c :: cs) (n + c.utf8Size) = (takeBytes cs n).map (c :: ·) := by
  obtain ⟨m, hm⟩ : ∃ m, n + c.utf8Size = m + 1 :=
    Nat.exists_eq_add_one.mpr (Nat.add_pos_right n c.utf8Size_pos)
  have hrest : m + 1 - c.utf8Size = n := by omega
  rw [hm, takeBytes, if_pos (by omega), hrest]

/-- A text can be cut behind each of its beginnings. -/
theorem dropBytes_append (before rest : List Char) :
    dropBytes (before ++ rest) (utf8Len before) = some rest := by
  induction before with
  | nil => rw [List.nil_append, String.utf8Len_nil, dropBytes]
  | cons c before ih => rw [List.cons_append, String.utf8Len_cons, dropBytes_cons, ih]

theorem takeBytes_append (part after : List Char) :
    takeBytes (part ++ after) (utf8Len part) = some part := by
  induction part with
  | nil => rw [List.nil_append, String.utf8Len_nil, takeBytes]
  | cons c part ih =>
    rw [List.cons_append, String.utf8Len_cons, takeBytes_cons, ih, Option.map_some]

/-- Of two beginnings of one text, the one with fewer bytes begins the other. -/
theorem prefix_of_utf8Len_le {p q text : List Char} (hp : p <+: text) (hq : q <+: text)
    (h : utf8Len p ≤ utf8Len q) : p <+: q := by
  rcases List.prefix_or_prefix_of_prefix hp hq with hpq | ⟨more, rfl⟩
  · exact hpq
  · -- What `p` has more than `q` takes no bytes, and every character takes some.
    cases more with
    | nil => exact (List.append_nil q).symm ▸ List.prefix_rfl
    | cons c more =>
      have hc := c.utf8Size_pos
      rw [String.utf8Len_append, String.utf8Len_cons] at h
      omega

theorem eq_of_utf8Len_eq {p q text : List Char} (hp : p <+: text) (hq : q <+: text)
    (h : utf8Len p = utf8Len q) : p = q := by
  have hpq := prefix_of_utf8Len_le hp hq h.le
  have hqp := prefix_of_utf8Len_le hq hp h.ge
  exact hpq.eq_of_length_le hqp.length_le

/-- The first `n` bytes of a text end inside one of its characters. -/
def CutsCharacter (cs : List Char) (n : Nat) : Prop :=
  ∃ before c after, cs = before ++ c :: after ∧
    utf8Len before < n ∧ n < utf8Len before + c.utf8Size

theorem CutsCharacter.cons {cs : List Char} {n : Nat} (h : CutsCharacter cs n) (c : Char) :
    CutsCharacter (c :: cs) (n + c.utf8Size) := by
  obtain ⟨before, d, after, rfl, hlow, hhigh⟩ := h
  refine ⟨c :: before, d, after, rfl, ?_, ?_⟩
  · rw [String.utf8Len_cons]
    omega
  · rw [String.utf8Len_cons]
    omega

/-- An offset up to the end of a text lies between characters or inside one. -/
theorem append_or_cutsCharacter {cs : List Char} {n : Nat} (h : n ≤ utf8Len cs) :
    (∃ before after, cs = before ++ after ∧ utf8Len before = n) ∨ CutsCharacter cs n := by
  induction cs generalizing n with
  | nil => exact .inl ⟨[], [], rfl, (Nat.le_zero.mp h).symm⟩
  | cons c cs ih =>
    rw [String.utf8Len_cons] at h
    rcases Nat.eq_zero_or_pos n with rfl | hpos
    · exact .inl ⟨[], c :: cs, rfl, rfl⟩
    by_cases hfits : c.utf8Size ≤ n
    · obtain ⟨m, rfl⟩ := Nat.exists_eq_add_of_le' hfits
      rcases ih (Nat.le_of_add_le_add_right h) with ⟨before, after, rfl, hlength⟩ | hcut
      · exact .inl ⟨c :: before, after, rfl, by rw [String.utf8Len_cons, hlength]⟩
      · exact .inr (hcut.cons c)
    · exact .inr ⟨[], c, cs, rfl, hpos, by rw [String.utf8Len_nil]; omega⟩

theorem isValid_of_not_cutsCharacter {text : String} {n : Nat} (hn : n ≤ text.utf8ByteSize)
    (hcut : ¬ CutsCharacter text.toList n) : (⟨n⟩ : String.Pos.Raw).IsValid text := by
  rw [← String.utf8Len_toList] at hn
  obtain ⟨before, after, htext, rfl⟩ := (append_or_cutsCharacter hn).resolve_right hcut
  refine String.Pos.Raw.isValid_iff_exists_append.mpr
    ⟨String.ofList before, String.ofList after, ?_, ?_⟩
  · apply String.toList_injective
    simpa using htext
  · apply String.Pos.Raw.ext
    simp

/-- No character is cut behind a beginning of a text. -/
theorem not_cutsCharacter_append (before after : List Char) :
    ¬ CutsCharacter (before ++ after) (utf8Len before) := by
  rintro ⟨left, c, right, hcut, hlow, hhigh⟩
  obtain ⟨more, rfl⟩ : left <+: before :=
    prefix_of_utf8Len_le ⟨c :: right, hcut.symm⟩ ⟨after, rfl⟩ hlow.le
  -- The character right behind `left` is whole, so it ends too early or too late.
  rw [List.append_assoc, List.append_cancel_left_eq] at hcut
  rw [String.utf8Len_append] at hlow hhigh
  cases more with
  | nil => exact absurd hlow (Nat.lt_irrefl _)
  | cons d more =>
    obtain ⟨rfl, -⟩ := List.cons.inj hcut
    rw [String.utf8Len_cons] at hhigh
    omega

/-! ## Section 2: Slices -/

namespace Span

/-- The bytes of a span lie within those of another. -/
structure Within (inner outer : Span) : Prop where
  start_le : outer.startByte ≤ inner.startByte
  stop_le : inner.endByte ≤ outer.endByte

theorem append_of_slice {s : Span} {text part : String} (h : s.slice text = some part) :
    ∃ before after, text.toList = before ++ part.toList ++ after ∧
      utf8Len before = s.startByte ∧ utf8Len (before ++ part.toList) = s.endByte := by
  unfold slice at h
  split at h
  · cases h
  · next horder =>
    split at h
    · cases h
    · next rest hrest =>
      obtain ⟨cs, hcs, rfl⟩ := Option.map_eq_some_iff.mp h
      obtain ⟨before, htext, hbefore⟩ := append_of_dropBytes hrest
      obtain ⟨after, rfl, hlength⟩ := append_of_takeBytes hcs
      rw [String.toList_ofList]
      refine ⟨before, after, by rw [htext, List.append_assoc], hbefore, ?_⟩
      rw [String.utf8Len_append, hbefore, hlength]
      omega

/-- What a text holds between two of its beginnings is a slice of it. -/
theorem slice_of_append {s : Span} {text : String} {before part after : List Char}
    (htext : text.toList = before ++ part ++ after) (hstart : utf8Len before = s.startByte)
    (hstop : utf8Len (before ++ part) = s.endByte) : s.slice text = some (String.ofList part) := by
  have hlength : s.endByte - s.startByte = utf8Len part := by
    rw [← hstart, ← hstop, String.utf8Len_append]
    omega
  have horder : ¬ s.endByte < s.startByte := by
    rw [← hstart, ← hstop, String.utf8Len_append]
    omega
  rw [slice, if_neg horder, htext, List.append_assoc, ← hstart, dropBytes_append]
  simp only [hstart, hlength, takeBytes_append, Option.map_some]

/-- A span that starts and ends between characters of a text, and is not reversed, can be cut
    from it. -/
theorem exists_slice {s : Span} {text : String} (horder : s.startByte ≤ s.endByte)
    (hstart : (⟨s.startByte⟩ : String.Pos.Raw).IsValid text)
    (hstop : (⟨s.endByte⟩ : String.Pos.Raw).IsValid text) : ∃ part, s.slice text = some part := by
  obtain ⟨before, rest, hbefore, hstartByte⟩ := String.Pos.Raw.isValid_iff_exists_append.mp hstart
  obtain ⟨upto, after, hupto, hendByte⟩ := String.Pos.Raw.isValid_iff_exists_append.mp hstop
  have hbeforeLen : utf8Len before.toList = s.startByte := by
    rw [String.utf8Len_toList]
    exact (congrArg String.Pos.Raw.byteIdx hstartByte).symm
  have huptoLen : utf8Len upto.toList = s.endByte := by
    rw [String.utf8Len_toList]
    exact (congrArg String.Pos.Raw.byteIdx hendByte).symm
  have hbeforeText : before.toList ++ rest.toList = text.toList := by
    rw [hbefore, String.toList_append]
  have huptoText : upto.toList ++ after.toList = text.toList := by
    rw [hupto, String.toList_append]
  -- Both cuts are beginnings of the text, so the earlier one begins the later one.
  obtain ⟨part, hpart⟩ : before.toList <+: upto.toList := by
    refine prefix_of_utf8Len_le ⟨_, hbeforeText⟩ ⟨_, huptoText⟩ ?_
    rwa [hbeforeLen, huptoLen]
  rw [← hpart] at huptoText huptoLen
  exact ⟨_, slice_of_append huptoText.symm hbeforeLen huptoLen⟩

/-- The slice of a span within another is a part of the slice of that other, as many bytes
    behind its start as the one span starts behind the other. -/
theorem Within.slice {inner outer : Span} {text part whole : String} (h : inner.Within outer)
    (hpart : inner.slice text = some part) (hwhole : outer.slice text = some whole) :
    ∃ before after, whole = before ++ part ++ after ∧
      before.utf8ByteSize = inner.startByte - outer.startByte := by
  obtain ⟨p, p', hp, hpstart, hpstop⟩ := append_of_slice hpart
  obtain ⟨w, w', hw, hwstart, hwstop⟩ := append_of_slice hwhole
  -- The cuts stand in the order `w`, `p`, `p ++ part`, `w ++ whole`, all of them beginnings
  -- of the text.
  have hpText : p <+: text.toList := ⟨part.toList ++ p', by rw [hp, List.append_assoc]⟩
  have hwText : w <+: text.toList := ⟨whole.toList ++ w', by rw [hw, List.append_assoc]⟩
  obtain ⟨before, rfl⟩ : w <+: p := by
    refine prefix_of_utf8Len_le hwText hpText ?_
    rw [hwstart, hpstart]
    exact h.start_le
  obtain ⟨after, hafter⟩ : w ++ before ++ part.toList <+: w ++ whole.toList := by
    refine prefix_of_utf8Len_le ⟨p', hp.symm⟩ ⟨w', hw.symm⟩ ?_
    rw [hpstop, hwstop]
    exact h.stop_le
  rw [List.append_assoc, List.append_assoc, List.append_cancel_left_eq] at hafter
  refine ⟨String.ofList before, String.ofList after, ?_, ?_⟩
  · apply String.toList_injective
    rw [← hafter]
    simp
  · rw [String.utf8Len_append] at hpstart
    rw [String.utf8ByteSize_ofList]
    omega

/-! ## Section 3: Exactness -/

/-- A text falls into three parts, the middle one of which takes up the bytes of a span. -/
def Splits (s : Span) (text part : String) : Prop :=
  ∃ before after : String, text = before ++ part ++ after ∧
    before.utf8ByteSize = s.startByte ∧ (before ++ part).utf8ByteSize = s.endByte

theorem slice_eq_some_iff {s : Span} {text part : String} :
    s.slice text = some part ↔ s.Splits text part := by
  constructor
  · intro h
    obtain ⟨before, after, htext, hstart, hstop⟩ := append_of_slice h
    refine ⟨String.ofList before, String.ofList after, ?_, ?_, ?_⟩
    · apply String.toList_injective
      simpa using htext
    · rw [String.utf8ByteSize_ofList, hstart]
    · rw [← String.utf8Len_toList, String.toList_append, String.toList_ofList, hstop]
  · rintro ⟨before, after, rfl, hstart, hstop⟩
    rw [← String.utf8Len_toList] at hstart hstop
    rw [String.toList_append] at hstop
    have htext : (before ++ part ++ after).toList =
        before.toList ++ part.toList ++ after.toList := by simp only [String.toList_append]
    rw [slice_of_append htext hstart hstop, String.ofList_toList]

/-- A span cannot be cut from a text if and only if it is reversed, it ends behind the text, or
    one of its ends lies inside a character. -/
theorem slice_eq_none_iff {s : Span} {text : String} :
    s.slice text = none ↔ s.endByte < s.startByte ∨ text.utf8ByteSize < s.endByte ∨
      CutsCharacter text.toList s.startByte ∨ CutsCharacter text.toList s.endByte := by
  constructor
  · intro hnone
    by_contra hgood
    obtain ⟨horder, hend, hstart, hstop⟩ : ¬ s.endByte < s.startByte ∧
        ¬ text.utf8ByteSize < s.endByte ∧ ¬ CutsCharacter text.toList s.startByte ∧
        ¬ CutsCharacter text.toList s.endByte := by simpa only [not_or] using hgood
    -- Both offsets lie between characters, which is where a text can be cut.
    obtain ⟨part, hpart⟩ : ∃ part, s.slice text = some part := by
      apply exists_slice
      · omega
      · exact isValid_of_not_cutsCharacter (by omega) hstart
      · exact isValid_of_not_cutsCharacter (by omega) hstop
    rw [hnone] at hpart
    cases hpart
  · intro hbad
    rw [Option.eq_none_iff_forall_ne_some]
    intro part hpart
    -- A slice is a part of the text between two of its beginnings, which cut no character.
    obtain ⟨before, after, htext, hstart, hstop⟩ := append_of_slice hpart
    rw [← String.utf8Len_toList, htext, ← hstart, ← hstop] at hbad
    rcases hbad with horder | hend | hcut | hcut
    · rw [String.utf8Len_append] at horder
      omega
    · rw [String.utf8Len_append] at hend
      omega
    · rw [List.append_assoc] at hcut
      exact not_cutsCharacter_append _ _ hcut
    · exact not_cutsCharacter_append _ _ hcut

/-- Two slices of which the second starts where the first ends make up one slice. -/
theorem slice_append {first second whole : Span} {text p q : String}
    (hmeet : second.startByte = first.endByte) (hstart : whole.startByte = first.startByte)
    (hstop : whole.endByte = second.endByte) (hp : first.slice text = some p)
    (hq : second.slice text = some q) : whole.slice text = some (p ++ q) := by
  obtain ⟨before, rest, htext, hbefore, hmiddle⟩ := append_of_slice hp
  obtain ⟨upto, after, htext', hupto, hend⟩ := append_of_slice hq
  -- The text is cut twice at the place where the slices meet.
  obtain rfl : before ++ p.toList = upto := by
    refine eq_of_utf8Len_eq ⟨rest, htext.symm⟩ ⟨q.toList ++ after, ?_⟩ ?_
    · rw [htext', List.append_assoc]
    · rw [hmiddle, hupto, hmeet]
  have hparts : before ++ p.toList ++ q.toList = before ++ (p ++ q).toList := by
    rw [String.toList_append, List.append_assoc]
  rw [hparts] at htext' hend
  rw [slice_of_append htext' (hbefore.trans hstart.symm) (hend.trans hstop.symm),
    String.ofList_toList]

/-- **Slices are exact.** A part is the slice of a span if and only if it stands in the text
    behind as many bytes as lie before the span and ends with the last byte of the span; there
    is at most one such part. There is no slice only for a span that is reversed, ends behind
    the text, or has an end inside a character. Slices that meet make up one slice. -/
theorem slice_exact (s : Span) (text : String) :
    (∀ part, s.slice text = some part ↔ s.Splits text part) ∧
    (∀ part other, s.Splits text part → s.Splits text other → part = other) ∧
    (s.slice text = none ↔ s.endByte < s.startByte ∨ text.utf8ByteSize < s.endByte ∨
      CutsCharacter text.toList s.startByte ∨ CutsCharacter text.toList s.endByte) ∧
    ∀ (next whole : Span) (p q : String), next.startByte = s.endByte →
      whole.startByte = s.startByte → whole.endByte = next.endByte →
      s.slice text = some p → next.slice text = some q → whole.slice text = some (p ++ q) := by
  refine ⟨fun part => slice_eq_some_iff, ?_, slice_eq_none_iff, ?_⟩
  · intro part other hpart hother
    rw [← slice_eq_some_iff] at hpart hother
    exact Option.some.inj (hpart.symm.trans hother)
  · intro next whole p q hmeet hstart hstop
    exact slice_append hmeet hstart hstop

theorem slice_exact_accented :
    (⟨1, 3, 1, 1⟩ : Span).slice "né!" = some "é" ∧ (⟨3, 4, 1, 1⟩ : Span).slice "né!" = some "!" ∧
    (⟨1, 4, 1, 1⟩ : Span).slice "né!" = some "é!" ∧ (⟨2, 4, 1, 1⟩ : Span).slice "né!" = none := by
  have hfirst : (⟨1, 3, 1, 1⟩ : Span).slice "né!" = some "é" := by decide
  have hsecond : (⟨3, 4, 1, 1⟩ : Span).slice "né!" = some "!" := by decide
  refine ⟨hfirst, hsecond, ?_, ?_⟩
  · exact (slice_exact ⟨1, 3, 1, 1⟩ "né!").2.2.2 ⟨3, 4, 1, 1⟩ ⟨1, 4, 1, 1⟩ "é" "!" rfl rfl rfl
      hfirst hsecond
  · exact (slice_exact ⟨2, 4, 1, 1⟩ "né!").2.2.1.mpr
      (.inr (.inr (.inl ⟨['n'], 'é', ['!'], by decide, by decide, by decide⟩)))

end Span

end CallAtlas.Text
