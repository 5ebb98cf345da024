import CallAtlas.Proofs.Slices
import CallAtlas.Syntax.Token
import Mathlib.Data.List.Infix

/-! # Places of tokens

    A place of a text is the place behind one of its beginnings, so its byte and its row are
    those of the characters before it. A cursor that steps through a text stays at such places.
    All that looks for a token only moves cursors, so a token starts and ends at places of the
    text.
-/

namespace CallAtlas.Text

open String (utf8Len)

/-! ## Section 1: Places of a text -/

/-- The place behind the characters at the start of a text. -/
def placeBehind (before : List Char) : Place := before.foldl Place.after .zero

namespace Place

/-- A place is that behind some beginning of the text. -/
def LiesIn (text : String) (p : Place) : Prop :=
  ∃ before, before <+: text.toList ∧ placeBehind before = p

instance (text : String) (p : Place) : Decidable (p.LiesIn text) :=
  decidable_of_iff (∃ before ∈ text.toList.inits, placeBehind before = p) (by
    simp only [LiesIn, List.mem_inits])

theorem byte_foldl_after (p : Place) (cs : List Char) :
    (cs.foldl after p).byte = p.byte + utf8Len cs := by
  induction cs generalizing p with
  | nil => rfl
  | cons c cs ih =>
    have hstep : (p.after c).byte = p.byte + c.utf8Size := by
      unfold after
      split
      · next hbreak => rw [hbreak]; rfl
      · rfl
    rw [List.foldl_cons, ih, hstep, String.utf8Len_cons]
    omega

theorem row_foldl_after (p : Place) (cs : List Char) :
    (cs.foldl after p).row = p.row + cs.count '\n' := by
  induction cs generalizing p with
  | nil => rfl
  | cons c cs ih =>
    rw [List.foldl_cons, ih, List.count_cons]
    unfold after
    split
    · next hbreak =>
      simp only [hbreak, beq_self_eq_true, if_true]
      omega
    · next hother =>
      have hbeq : (c == '\n') = false := by simpa using hother
      simp only [hbeq, Bool.false_eq_true, if_false]
      omega

end Place

theorem byte_placeBehind (before : List Char) : (placeBehind before).byte = utf8Len before := by
  rw [placeBehind, Place.byte_foldl_after]
  exact Nat.zero_add _

theorem row_placeBehind (before : List Char) : (placeBehind before).row = before.count '\n' := by
  rw [placeBehind, Place.row_foldl_after]
  exact Nat.zero_add _

/-- A beginning of a text is told by its bytes, so these give the place. -/
theorem Place.LiesIn.eq_placeBehind {text : String} {p : Place} (h : p.LiesIn text)
    {before : List Char} (hbefore : before <+: text.toList) (hbyte : utf8Len before = p.byte) :
    p = placeBehind before := by
  obtain ⟨other, hother, rfl⟩ := h
  rw [byte_placeBehind] at hbyte
  rw [eq_of_utf8Len_eq hbefore hother hbyte]

/-! ## Section 2: Cursors -/

namespace Cursor

/-- A cursor comes to another by steps over characters. -/
def LeadsTo (c d : Cursor) : Prop := ∃ n, c.skip n = d

theorem skip_add (m n : Nat) (c : Cursor) : c.skip (m + n) = (c.skip m).skip n := by
  induction m generalizing c with
  | zero => rw [Nat.zero_add, skip]
  | succ m ih => rw [Nat.succ_add, skip, skip, ih]

theorem leadsTo_refl (c : Cursor) : c.LeadsTo c := ⟨0, rfl⟩

theorem leadsTo_skip (c : Cursor) (n : Nat) : c.LeadsTo (c.skip n) := ⟨n, rfl⟩

theorem leadsTo_next (c : Cursor) : c.LeadsTo c.next := ⟨1, rfl⟩

theorem LeadsTo.trans {c d e : Cursor} (h : c.LeadsTo d) (h' : d.LeadsTo e) : c.LeadsTo e := by
  obtain ⟨m, rfl⟩ := h
  obtain ⟨n, rfl⟩ := h'
  exact ⟨m + n, skip_add m n c⟩

/-- A cursor stands in a text: what lies ahead of it is what its place leaves. -/
def StandsIn (text : String) (c : Cursor) : Prop :=
  ∃ before, before ++ c.rest = text.toList ∧ placeBehind before = c.place

variable {text : String} {c d : Cursor}

theorem standsIn_ofString (text : String) : (ofString text).StandsIn text := ⟨[], rfl, rfl⟩

theorem StandsIn.liesIn (h : c.StandsIn text) : c.place.LiesIn text := by
  obtain ⟨before, htext, hplace⟩ := h
  exact ⟨before, ⟨c.rest, htext⟩, hplace⟩

theorem StandsIn.next (h : c.StandsIn text) : c.next.StandsIn text := by
  obtain ⟨place, rest⟩ := c
  obtain ⟨before, htext, hplace⟩ := h
  cases rest with
  | nil => exact ⟨before, htext, hplace⟩
  | cons x rest =>
    refine ⟨before ++ [x], ?_, ?_⟩
    · rw [List.append_assoc]
      exact htext
    · rw [placeBehind, List.foldl_append]
      show (placeBehind before).after x = place.after x
      rw [hplace]

theorem StandsIn.of_leadsTo (h : c.StandsIn text) (hd : c.LeadsTo d) : d.StandsIn text := by
  obtain ⟨n, rfl⟩ := hd
  induction n generalizing c with
  | zero => exact h
  | succ n ih => exact ih h.next

end Cursor

end CallAtlas.Text

namespace CallAtlas.Syntax

open CallAtlas.Text
open CallAtlas.Grammar (Lexeme TokenSet)

/-! ## Section 3: Tokens that depend on the memory -/

/-- A token is cut from the text ahead of a cursor: the cursor leads to where the token
    starts, and from there to the cursor behind the token. -/
def Scanned.CutFrom (s : Scanned) (c : Cursor) : Prop :=
  ∃ first, c.LeadsTo first ∧ first.place = s.start ∧ first.LeadsTo s.cursor

variable {m : Memory} {c : Cursor} {s : Scanned}

theorem cutFrom_of_scanBrace (h : scanBrace m c = some s) : s.CutFrom c := by
  unfold scanBrace at h
  split at h
  · split at h
    · cases h
      exact ⟨c, c.leadsTo_refl, rfl, c.leadsTo_skip 2⟩
    · cases h
  · cases h

/-- A piece of a string starts where it was said to and ends at a cursor further on. -/
theorem leadsTo_of_scanString {q : Quote} {start : Place} {hasText : Bool}
    (h : scanString m q start hasText c = some s) : s.start = start ∧ c.LeadsTo s.cursor := by
  -- The text passed so far ends right here, wherever the scan stops for another token.
  have htext : ∀ (hasText : Bool) (c : Cursor),
      (if hasText then some (⟨.stringText, start, c, m⟩ : Scanned) else none) = some s →
        s.start = start ∧ c.LeadsTo s.cursor := by
    intro hasText c h
    split at h
    · cases h
      exact ⟨rfl, c.leadsTo_refl⟩
    · cases h
  fun_induction scanString m q start hasText c with
  | case1 | case2 | case14 => cases h
  | case3 hasText c | case6 hasText c => exact htext hasText c h
  | case4 hasText c _ _ _ _ _ ih =>
    obtain ⟨hstart, hleads⟩ := ih h
    exact ⟨hstart, (c.leadsTo_skip _).trans hleads⟩
  | case5 hasText c _ _ _ _ _ _ ih =>
    obtain ⟨hstart, hleads⟩ := ih h
    exact ⟨hstart, (c.leadsTo_skip 3).trans hleads⟩
  | case7 | case12 =>
    cases h
    exact ⟨rfl, Cursor.leadsTo_refl _⟩
  | case8 | case9 | case10 | case11 | case13 =>
    cases h
    exact ⟨rfl, Cursor.leadsTo_skip _ _⟩
  | case15 hasText c text x rest _ _ _ _ _ ih =>
    obtain ⟨hstart, hleads⟩ := ih h
    exact ⟨hstart, c.leadsTo_next.trans hleads⟩

theorem leadsTo_of_passGap {comments : Bool} {g g' : Gap} (h : passGap comments g = some g') :
    g.cursor.LeadsTo g'.cursor := by
  fun_induction passGap comments g with
  | case1 | case10 =>
    cases h
    exact Cursor.leadsTo_refl _
  | case2 g _ _ ih | case3 g _ _ _ ih | case4 g _ _ _ _ _ _ ih | case5 g _ _ _ _ _ ih =>
    exact g.cursor.leadsTo_next.trans (ih h)
  | case6 g _ _ _ _ _ _ _ _ _ ih | case8 g _ _ _ _ _ _ _ _ _ ih =>
    exact (g.cursor.leadsTo_skip _).trans (ih h)
  | case7 | case9 => cases h

/-- The tokens for the shape of lines have no width. -/
theorem cutFrom_of_scanLine {w : Wanted} {g : Gap} (h : scanLine w m c g = some s) :
    s.CutFrom c := by
  have hhere : ∀ t m, some ⟨t, c.place, c, m⟩ = some s → s.CutFrom c := by
    rintro t m h
    cases h
    exact ⟨c, c.leadsTo_refl, rfl, c.leadsTo_refl⟩
  unfold scanLine at h
  dsimp only at h
  split at h
  · cases h
  · split at h
    · split_ifs at h
      exact hhere _ _ h
    · split_ifs at h
      · exact hhere _ _ h
      · exact hhere _ _ h
      · exact hhere _ _ h

theorem leadsTo_scanFlags (q : Quote) (c : Cursor) : c.LeadsTo (scanFlags q c).2 := by
  fun_induction scanFlags q c with
  | case1 _ c _ _ _ _ ih | case2 _ c _ _ _ _ _ ih | case3 _ c _ _ _ _ _ _ ih
  | case4 _ c _ _ _ _ _ _ _ ih => exact c.leadsTo_next.trans ih
  | case5 | case6 => exact Cursor.leadsTo_refl _

theorem cutFrom_of_scanOpening (h : scanOpening m c = some s) : s.CutFrom c := by
  have hopening : ∀ n t m,
      s = ⟨t, c.place, (scanFlags ⟨'\'', false, false, false, false⟩ c).2.skip n, m⟩ →
        s.CutFrom c := by
    rintro n t m rfl
    exact ⟨c, c.leadsTo_refl, rfl, (leadsTo_scanFlags _ c).trans (Cursor.leadsTo_skip _ n)⟩
  unfold scanOpening at h
  dsimp only at h
  split at h
  · exact hopening _ _ _ (Option.some.inj h).symm
  · exact hopening _ _ _ (Option.some.inj h).symm
  · exact hopening _ _ _ (Option.some.inj h).symm
  · exact hopening _ _ _ (Option.some.inj h).symm
  · exact hopening _ _ _ (Option.some.inj h).symm
  · cases h

theorem cutFrom_of_scanGap {w : Wanted} (h : m.scanGap w c = some s) : s.CutFrom c := by
  unfold Memory.scanGap at h
  split at h
  · cases h
  · next g hgap =>
    have hg := leadsTo_of_passGap hgap
    split at h
    · next token hline =>
      rw [← Option.some.inj h]
      exact cutFrom_of_scanLine hline
    · split at h
      · obtain ⟨first, hfirst, hplace, hcursor⟩ := cutFrom_of_scanOpening h
        exact ⟨first, hg.trans hfirst, hplace, hcursor⟩
      · cases h

theorem cutFrom_of_scan {w : Wanted} (h : m.scan w c = some s) : s.CutFrom c := by
  unfold Memory.scan at h
  split at h
  · dsimp only at h
    split_ifs at h
    · exact cutFrom_of_scanBrace h
    · obtain ⟨hstart, hcursor⟩ := leadsTo_of_scanString h
      exact ⟨c, c.leadsTo_refl, hstart.symm, hcursor⟩
    · exact cutFrom_of_scanGap h
  · exact cutFrom_of_scanGap h

/-! ## Section 4: The tokenizer -/

namespace Vocabulary

variable {v : Vocabulary} {expected : TokenSet}

theorem leadsTo_of_plain {adjacent : Bool} {i : Nat} {first behind : Cursor}
    (h : v.plain expected adjacent c = some (i, first, behind)) :
    c.LeadsTo first ∧ first.LeadsTo behind := by
  fun_induction plain v expected adjacent c with
  | case1 =>
    cases h
    exact ⟨first.leadsTo_refl, first.leadsTo_skip _⟩
  | case2 =>
    cases h
    exact ⟨first.leadsTo_refl, first.leadsTo_refl⟩
  | case4 adjacent c _ _ _ _ _ ih =>
    -- A blank in front of the token.
    obtain ⟨hfirst, hbehind⟩ := ih h
    exact ⟨c.leadsTo_next.trans hfirst, hbehind⟩
  | case3 | case5 => cases h

theorem leadsTo_passByteOrderMark (c : Cursor) : c.LeadsTo (passByteOrderMark c) := by
  unfold passByteOrderMark
  split
  · split
    · exact c.leadsTo_next
    · exact c.leadsTo_refl
  · exact c.leadsTo_refl

/-- Every token is cut from the text ahead. -/
theorem cutFrom_of_next {l : Lexeme Memory} (h : v.next expected m c = some l) :
    ∃ first, c.LeadsTo first ∧ first.place = l.start ∧ first.LeadsTo l.cursor ∧
      l.cursor.place = l.stop := by
  have hmark := leadsTo_passByteOrderMark c
  unfold next at h
  dsimp only at h
  split at h
  · next s hscan =>
    obtain ⟨first, hfirst, hplace, hcursor⟩ := cutFrom_of_scan hscan
    cases h
    exact ⟨first, hmark.trans hfirst, hplace, hcursor, rfl⟩
  · split at h
    · next i first behind hplain =>
      obtain ⟨hfirst, hbehind⟩ := leadsTo_of_plain hplain
      cases h
      exact ⟨first, hmark.trans hfirst, rfl, hbehind, rfl⟩
    · cases h

end Vocabulary

end CallAtlas.Syntax
