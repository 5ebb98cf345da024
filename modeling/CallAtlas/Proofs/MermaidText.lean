import CallAtlas.Decimal.Reading
import CallAtlas.Export.Mermaid
import CallAtlas.Proofs.Replacements
import Mathlib.Data.List.Infix
import Mathlib.Data.String.Basic

/-! # What a flowchart tells

    A line of a flowchart can be told from what follows it: a number ends before the first
    character that is no digit, and a label before the first quote, since a label holds none.
    So the text determines the lines, and these the numbers, labels and kinds in them. Labels
    are written with entities. An ampersand of a name is not written with one, so a name may
    hold an entity itself, and then its label is also that of another name.
-/

namespace CallAtlas.Export.Mermaid

open CallAtlas.Decimal CallAtlas.Graph CallAtlas.Text

/-! ## Section 1: Entities -/

/-- What the entity at the start of a text stands for, and what stands behind it. -/
def readEntity (cs : List Char) : Option (Char × List Char) :=
  entities.findSome? fun e => (e.2.toList.isPrefixOf? cs).map (e.1, ·)

theorem readEntity_entity {e : Char × String} (he : e ∈ entities) (rest : List Char) :
    readEntity (e.2.toList ++ rest) = some (e.1, rest) := by
  simp only [entities, List.mem_cons, List.not_mem_nil, or_false] at he
  rcases he with rfl | rfl | rfl | rfl | rfl <;> rfl

theorem readEntity_eq_some_iff {cs rest : List Char} {c : Char} :
    readEntity cs = some (c, rest) ↔ ∃ e ∈ entities, e.1 = c ∧ cs = e.2.toList ++ rest := by
  constructor
  · intro h
    obtain ⟨e, he, hread⟩ := List.exists_of_findSome?_eq_some h
    obtain ⟨rest', hrest, heq⟩ := Option.map_eq_some_iff.mp hread
    obtain ⟨rfl, rfl⟩ := Prod.mk.inj heq
    exact ⟨e, he, rfl, (List.isPrefixOf?_eq_some_iff_append_eq.mp hrest).symm⟩
  · rintro ⟨e, he, rfl, rfl⟩
    exact readEntity_entity he rest

theorem readEntity_eq_none_iff {cs : List Char} :
    readEntity cs = none ↔ ∀ e ∈ entities, ¬ e.2.toList <+: cs := by
  constructor
  · rintro h e he ⟨rest, rfl⟩
    rw [readEntity_entity he rest] at h
    cases h
  · intro h
    cases hread : readEntity cs with
    | none => rfl
    | some p =>
      obtain ⟨e, he, -, rfl⟩ := readEntity_eq_some_iff.mp hread
      exact absurd (List.prefix_append _ _) (h e he)

/-- An entity starts with an ampersand, and has no other one. -/
theorem exists_body_of_mem_entities {e : Char × String} (he : e ∈ entities) :
    ∃ b body, e.2.toList = '&' :: b :: body ∧ '&' ∉ b :: body := by
  simp only [entities, List.mem_cons, List.not_mem_nil, or_false] at he
  rcases he with rfl | rfl | rfl | rfl | rfl <;> exact ⟨_, _, rfl, by decide⟩

theorem length_of_readEntity {cs rest : List Char} {c : Char}
    (h : readEntity cs = some (c, rest)) : rest.length < cs.length := by
  obtain ⟨e, he, -, rfl⟩ := readEntity_eq_some_iff.mp h
  obtain ⟨b, body, htext, -⟩ := exists_body_of_mem_entities he
  rw [htext, List.length_append, List.length_cons]
  omega

/-- A text with its entities read, from the first to the last. -/
def unescape : List Char → List Char
  | [] => []
  | c :: cs =>
    match _h : readEntity (c :: cs) with
    | some (d, rest) => d :: unescape rest
    | none => c :: unescape cs
  termination_by cs => cs.length
  decreasing_by
  · exact length_of_readEntity ‹_›
  · exact Nat.lt_succ_self _

/-- The text that a label shows. -/
def decodeLabel (label : String) : String := String.ofList (unescape label.toList)

theorem unescape_nil : unescape [] = [] := by
  rw [unescape]

theorem unescape_entity {e : Char × String} (he : e ∈ entities) (rest : List Char) :
    unescape (e.2.toList ++ rest) = e.1 :: unescape rest := by
  have hread := readEntity_entity he rest
  obtain ⟨b, body, htext, -⟩ := exists_body_of_mem_entities he
  rw [htext, List.cons_append] at hread ⊢
  rw [unescape]
  split
  · next d rest' h =>
    obtain ⟨rfl, rfl⟩ := Prod.mk.inj (Option.some.inj (h.symm.trans hread))
    rfl
  · next h => cases h.symm.trans hread

theorem unescape_cons {c : Char} {cs : List Char} (h : readEntity (c :: cs) = none) :
    unescape (c :: cs) = c :: unescape cs := by
  rw [unescape]
  split
  · next hsome => cases h.symm.trans hsome
  · rfl

/-- To show that something holds of every text, show it of the empty one, of a text that
    starts with an entity, and of a text that starts with a character of its own. -/
theorem entity_induction {motive : List Char → Prop} (nil : motive [])
    (entity : ∀ e ∈ entities, ∀ rest, motive rest → motive (e.2.toList ++ rest))
    (cons : ∀ c cs, readEntity (c :: cs) = none → motive cs → motive (c :: cs)) :
    ∀ cs, motive cs
  | [] => nil
  | c :: cs => by
    cases h : readEntity (c :: cs) with
    | none => exact cons c cs h (entity_induction nil entity cons cs)
    | some p =>
      have hlt := length_of_readEntity h
      obtain ⟨e, he, -, htext⟩ := readEntity_eq_some_iff.mp h
      rw [htext]
      exact entity e he p.2 (entity_induction nil entity cons p.2)
  termination_by cs => cs.length
  decreasing_by
  · exact Nat.lt_succ_self _
  · exact hlt

/-! ## Section 2: Labels -/

/-- No entity holds a character that has an entity itself. -/
theorem independent_entities : Independent entities := by
  decide

/-- The characters of a label. -/
def escapeChars (cs : List Char) : List Char := cs.flatMap (replacementOf entities)

theorem toList_escape (name : String) : (escape name).toList = escapeChars name.toList :=
  toList_replaceChain independent_entities name

theorem escapeChars_cons (c : Char) (cs : List Char) :
    escapeChars (c :: cs) = replacementOf entities c ++ escapeChars cs := List.flatMap_cons

theorem replacementOf_entity :
    ∀ e ∈ entities, replacementOf entities e.1 = e.2.toList := by
  decide

/-- A character is written as its entity, if it has one, or else as itself. -/
theorem replacementOf_cases (c : Char) :
    (∃ e ∈ entities, e.1 = c ∧ replacementOf entities c = e.2.toList) ∨
      (∀ e ∈ entities, e.1 ≠ c) ∧ replacementOf entities c = [c] := by
  by_cases h : ∃ e ∈ entities, e.1 = c
  · obtain ⟨e, he, rfl⟩ := h
    exact .inl ⟨e, he, rfl, replacementOf_entity e he⟩
  · have hne : ∀ e ∈ entities, e.1 ≠ c := fun e he heq => h ⟨e, he, heq⟩
    exact .inr ⟨hne, replacementOf_of_forall_ne hne⟩

/-- The characters of an entity are written as themselves. -/
theorem escapeChars_entity {e : Char × String} (he : e ∈ entities) (rest : List Char) :
    escapeChars (e.2.toList ++ rest) = e.2.toList ++ escapeChars rest := by
  have hself : ∀ e ∈ entities, escapeChars e.2.toList = e.2.toList := by
    decide
  rw [escapeChars, List.flatMap_append]
  exact congrArg (· ++ escapeChars rest) (hself e he)

/-- Reading the entities of a name first does not change its label. -/
theorem escapeChars_unescape (cs : List Char) : escapeChars (unescape cs) = escapeChars cs := by
  induction cs using entity_induction with
  | nil => rw [unescape_nil]
  | entity e he rest ih =>
    rw [unescape_entity he, escapeChars_cons, replacementOf_entity e he, ih,
      escapeChars_entity he]
  | cons c cs h ih => rw [unescape_cons h, escapeChars_cons, ih, escapeChars_cons]

/-- What a written text starts with, up to an ampersand, the text itself starts with. -/
theorem prefix_of_prefix_escapeChars {body cs : List Char} (hbody : '&' ∉ body)
    (h : body <+: escapeChars cs) : body <+: cs := by
  induction body generalizing cs with
  | nil => exact List.nil_prefix
  | cons b body ih =>
    rw [List.mem_cons, not_or] at hbody
    cases cs with
    | nil => exact h
    | cons c cs =>
      rw [escapeChars_cons] at h
      rcases replacementOf_cases c with ⟨e, he, -, htext⟩ | ⟨-, htext⟩
      · -- The text of an entity starts with the ampersand.
        obtain ⟨b', body', hentity, -⟩ := exists_body_of_mem_entities he
        rw [htext, hentity, List.cons_append, List.cons_prefix_cons] at h
        exact absurd h.1.symm hbody.1
      · rw [htext, List.singleton_append, List.cons_prefix_cons] at h
        exact List.cons_prefix_cons.mpr ⟨h.1, ih hbody.2 h.2⟩

/-- A label shows what the name shows. -/
theorem unescape_escapeChars (cs : List Char) : unescape (escapeChars cs) = unescape cs := by
  induction cs using entity_induction with
  | nil => rfl
  | entity e he rest ih => rw [escapeChars_entity he, unescape_entity he, ih, unescape_entity he]
  | cons c cs h ih =>
    rw [escapeChars_cons, unescape_cons h]
    rcases replacementOf_cases c with ⟨e, he, rfl, htext⟩ | ⟨-, htext⟩
    · rw [htext, unescape_entity he, ih]
    · -- No entity comes about where there was none.
      have hnone : readEntity (c :: escapeChars cs) = none := by
        rw [readEntity_eq_none_iff] at h ⊢
        intro e he hpre
        obtain ⟨b, body, hentity, hbody⟩ := exists_body_of_mem_entities he
        refine h e he ?_
        rw [hentity, List.cons_prefix_cons] at hpre ⊢
        exact ⟨hpre.1, prefix_of_prefix_escapeChars hbody hpre.2⟩
      rw [htext, List.singleton_append, unescape_cons hnone, ih]

theorem length_unescape_le (cs : List Char) : (unescape cs).length ≤ cs.length := by
  induction cs using entity_induction with
  | nil => rw [unescape_nil]
  | entity e he rest ih =>
    have hlt := length_of_readEntity (readEntity_entity he rest)
    rw [unescape_entity he, List.length_cons]
    omega
  | cons c cs h ih =>
    rw [unescape_cons h, List.length_cons, List.length_cons]
    omega

/-- Some text shows itself exactly if no entity occurs in it. -/
theorem unescape_eq_self_iff (cs : List Char) :
    unescape cs = cs ↔ ∀ e ∈ entities, ¬ e.2.toList <:+: cs := by
  induction cs using entity_induction with
  | nil =>
    refine iff_of_true unescape_nil fun e he hinfix => ?_
    obtain ⟨b, body, hentity, -⟩ := exists_body_of_mem_entities he
    rw [hentity, List.infix_nil] at hinfix
    cases hinfix
  | entity e he rest ih =>
    -- An entity is longer than what it stands for.
    refine iff_of_false (fun heq => ?_) fun h => h e he (List.prefix_append _ _).isInfix
    have hlength := congrArg List.length heq
    have hle := length_unescape_le rest
    obtain ⟨b, body, hentity, -⟩ := exists_body_of_mem_entities he
    rw [unescape_entity he, hentity, List.length_append, List.length_cons, List.length_cons,
      List.length_cons] at hlength
    omega
  | cons c cs h ih =>
    rw [unescape_cons h, List.cons.injEq, eq_self, true_and, ih]
    rw [readEntity_eq_none_iff] at h
    refine forall₂_congr fun e he => ?_
    rw [List.infix_cons_iff, not_or, and_iff_right (h e he)]

theorem decodeLabel_escape (name : String) : decodeLabel (escape name) = decodeLabel name := by
  rw [decodeLabel, toList_escape, unescape_escapeChars, decodeLabel]

/-- Two names have the same label exactly if they are the same once their entities are read. -/
theorem escape_eq_escape_iff {a b : String} :
    escape a = escape b ↔ decodeLabel a = decodeLabel b := by
  constructor
  · intro h
    rw [← decodeLabel_escape a, h, decodeLabel_escape]
  · intro h
    have hchars : unescape a.toList = unescape b.toList := String.ofList_injective h
    rw [← String.toList_inj, toList_escape, toList_escape, ← escapeChars_unescape a.toList, hchars,
      escapeChars_unescape]

/-! ## Section 3: Lines -/

/-- Where two texts are cut at the first character with some property, the cuts agree. -/
theorem append_inj_of_stop {p : Char → Bool} {a b r s : List Char} {c d : Char}
    (ha : ∀ x ∈ a, p x) (hb : ∀ x ∈ b, p x) (hc : p c = false) (hd : p d = false)
    (h : a ++ c :: r = b ++ d :: s) : a = b ∧ c = d ∧ r = s := by
  induction a generalizing b with
  | nil =>
    cases b with
    | nil => exact ⟨rfl, List.cons.inj h⟩
    | cons y b =>
      obtain ⟨rfl, -⟩ := List.cons.inj h
      rw [hb c List.mem_cons_self] at hc
      cases hc
  | cons x a ih =>
    cases b with
    | nil =>
      obtain ⟨rfl, -⟩ := List.cons.inj h
      rw [ha x List.mem_cons_self] at hd
      cases hd
    | cons y b =>
      obtain ⟨rfl, htail⟩ := List.cons.inj h
      rw [List.forall_mem_cons] at ha hb
      obtain ⟨rfl, hrest⟩ := ih ha.2 hb.2 htail
      exact ⟨rfl, hrest⟩

/-- A number ends before the first character that is no digit. -/
theorem toString_append_inj {i j : Nat} {c d : Char} {r s : List Char} (hc : c.isDigit = false)
    (hd : d.isDigit = false) (h : (toString i).toList ++ c :: r = (toString j).toList ++ d :: s) :
    i = j ∧ c = d ∧ r = s := by
  have hdigits : ∀ n : Nat, ∀ x ∈ (toString n).toList, x.isDigit = true := by
    intro n x hx
    rw [Nat.toString_eq_ofList_toDigits, String.toList_ofList] at hx
    exact Nat.isDigit_of_mem_toDigits (by decide) (by decide) hx
  obtain ⟨hnumber, hrest⟩ := append_inj_of_stop (hdigits i) (hdigits j) hc hd h
  refine ⟨?_, hrest⟩
  rw [← digitsValue_toString i, hnumber, digitsValue_toString]

/-- What a line says: of a node its number, its label and its kind; of a call the numbers of
    its ends, and the kind of the second. -/
inductive Statement where
  | node (i : Nat) (label : String) (isFunction : Bool)
  | call (i j : Nat) (isFunction : Bool)
  deriving DecidableEq

namespace Statement

def text : Statement → String
  | node i label isFunction =>
    "    n" ++ toString i
      ++ (if isFunction then "(\"" ++ label ++ "\")" else "([\"" ++ label ++ "\"])") ++ "\n"
  | call i j isFunction =>
    "    n" ++ toString i ++ (if isFunction then " --> n" else " -.-> n") ++ toString j ++ "\n"

/-- Labels hold no quotes. -/
def Legible : Statement → Prop
  | node _ label _ => '"' ∉ label.toList
  | call _ _ _ => True

def number : Statement → Nat
  | node i _ _ => i
  | call i _ _ => i

/-- What stands in a line behind the first number. -/
def tail : Statement → List Char
  | node _ label true => '(' :: '"' :: (label.toList ++ '"' :: [')', '\n'])
  | node _ label false => '(' :: '[' :: '"' :: (label.toList ++ '"' :: [']', ')', '\n'])
  | call _ j true => ' ' :: '-' :: '-' :: '>' :: ' ' :: 'n' :: ((toString j).toList ++ ['\n'])
  | call _ j false =>
    ' ' :: '-' :: '.' :: '-' :: '>' :: ' ' :: 'n' :: ((toString j).toList ++ ['\n'])

theorem toList_text (s : Statement) :
    s.text.toList = "    n".toList ++ ((toString s.number).toList ++ s.tail) := by
  cases s with
  | node i label isFunction => cases isFunction <;> simp [text, tail, number]
  | call i j isFunction => cases isFunction <;> simp [text, tail, number]

/-- What stands behind the number gives the rest of the statement, and where the line ends. -/
theorem tail_append_inj {s t : Statement} (hs : s.Legible) (ht : t.Legible)
    (hnumber : s.number = t.number) {r r' : List Char} (h : s.tail ++ r = t.tail ++ r') :
    s = t ∧ r = r' := by
  have hlabel : ∀ label : String, '"' ∉ label.toList →
      ∀ x ∈ label.toList, (x != '"') = true := by
    intro label hquote x hx
    rw [bne_iff_ne]
    rintro rfl
    exact hquote hx
  cases s with
  | node i label isFunction =>
    cases t with
    -- Lines of different shapes differ within the characters before a label or a number.
    | call j k isFunction' => cases isFunction <;> cases isFunction' <;> simp [tail] at h
    | node j label' isFunction' =>
      obtain rfl : i = j := hnumber
      cases isFunction <;> cases isFunction' <;>
        simp only [tail, List.cons_append, List.append_assoc, List.cons.injEq, Char.reduceEq,
          true_and, false_and, and_false] at h
      all_goals
        obtain ⟨hsame, -, hrest⟩ :=
          append_inj_of_stop (hlabel label hs) (hlabel label' ht) rfl rfl h
        obtain rfl := String.toList_inj.mp hsame
        exact ⟨rfl, by simpa using hrest⟩
  | call i k isFunction =>
    cases t with
    | node j label' isFunction' => cases isFunction <;> cases isFunction' <;> simp [tail] at h
    | call j k' isFunction' =>
      obtain rfl : i = j := hnumber
      cases isFunction <;> cases isFunction' <;>
        simp only [tail, List.cons_append, List.append_assoc, List.cons.injEq, Char.reduceEq,
          true_and, false_and, and_false] at h
      all_goals
        obtain ⟨rfl, -, hrest⟩ := toString_append_inj rfl rfl h
        exact ⟨rfl, by simpa using hrest⟩

/-- The text of a line determines what it says and where it ends. -/
theorem text_append_inj {s t : Statement} (hs : s.Legible) (ht : t.Legible) {r r' : List Char}
    (h : s.text.toList ++ r = t.text.toList ++ r') : s = t ∧ r = r' := by
  have hstop : ∀ u : Statement, ∃ c rest, u.tail = c :: rest ∧ c.isDigit = false := by
    intro u
    cases u with
    | node i label isFunction => cases isFunction <;> exact ⟨_, _, rfl, rfl⟩
    | call i j isFunction => cases isFunction <;> exact ⟨_, _, rfl, rfl⟩
  obtain ⟨c, rest, hsTail, hc⟩ := hstop s
  obtain ⟨d, rest', htTail, hd⟩ := hstop t
  rw [toList_text, toList_text, List.append_assoc, List.append_assoc, List.append_assoc,
    List.append_assoc] at h
  have hlines := List.append_cancel_left h
  rw [hsTail, htTail, List.cons_append, List.cons_append] at hlines
  obtain ⟨hnumber, hcd, hrest⟩ := toString_append_inj hc hd hlines
  refine tail_append_inj hs ht hnumber ?_
  rw [hsTail, htTail, List.cons_append, List.cons_append, hcd, hrest]

/-- Lines determine what they say. -/
theorem eq_of_join_text {ss ts : List Statement} (hss : ∀ s ∈ ss, s.Legible)
    (hts : ∀ t ∈ ts, t.Legible)
    (h : String.join (ss.map text) = String.join (ts.map text)) : ss = ts := by
  have hne : ∀ (s : Statement) (rest : List Char), s.text.toList ++ rest ≠ [] := by
    intro s rest
    rw [toList_text]
    exact List.cons_ne_nil _ _
  rw [← String.toList_inj] at h
  induction ss generalizing ts with
  | nil =>
    cases ts with
    | nil => rfl
    | cons t ts =>
      rw [List.map_cons, String.join_cons, String.toList_append] at h
      exact absurd h.symm (hne t _)
  | cons s ss ih =>
    cases ts with
    | nil =>
      rw [List.map_cons, String.join_cons, String.toList_append] at h
      exact absurd h (hne s _)
    | cons t ts =>
      rw [List.map_cons, List.map_cons, String.join_cons, String.join_cons, String.toList_append,
        String.toList_append] at h
      rw [List.forall_mem_cons] at hss hts
      obtain ⟨rfl, hrest⟩ := text_append_inj hss.1 hts.1 h
      rw [ih hss.2 hts.2 hrest]

end Statement

/-! ## Section 4: Flowcharts -/

/-- A label holds no quote. -/
theorem quote_not_mem_escape (name : String) : '"' ∉ (escape name).toList := by
  rw [toList_escape, escapeChars, List.mem_flatMap]
  rintro ⟨c, -, hquote⟩
  rcases replacementOf_cases c with ⟨e, he, -, htext⟩ | ⟨hne, htext⟩
  · have hfree : ∀ e ∈ entities, '"' ∉ e.2.toList := by decide
    rw [htext] at hquote
    exact hfree e he hquote
  · rw [htext, List.mem_singleton] at hquote
    exact hne ('"', "&quot;") List.mem_cons_self hquote

/-- What a flowchart says, line by line. -/
def statementsOf (g : CallGraph) (nodes : List Nat) (calls : List (Nat × Nat)) : List Statement :=
  nodes.map (fun i => .node i (escape (g.nameAt i)) (g.isFunctionAt i))
    ++ calls.map fun c => .call c.1 c.2 (g.isFunctionAt c.2)

theorem render_eq (g : CallGraph) (nodes : List Nat) (calls : List (Nat × Nat)) :
    render g nodes calls =
      "flowchart TB\n" ++ String.join ((statementsOf g nodes calls).map Statement.text) := by
  rw [statementsOf, List.map_append, String.join_append, List.map_map, List.map_map,
    ← String.append_assoc]
  rfl

theorem legible_of_mem_statementsOf {g : CallGraph} {nodes : List Nat} {calls : List (Nat × Nat)} :
    ∀ s ∈ statementsOf g nodes calls, s.Legible := by
  intro s hs
  rcases List.mem_append.mp hs with hs | hs
  · obtain ⟨i, -, rfl⟩ := List.mem_map.mp hs
    exact quote_not_mem_escape _
  · obtain ⟨c, -, rfl⟩ := List.mem_map.mp hs
    exact trivial

theorem map_mk_eq_map_mk_iff {α β : Type} {f g : α → β} {xs ys : List α} :
    (xs.map fun x => (x, f x)) = (ys.map fun y => (y, g y)) ↔ xs = ys ∧ ∀ x ∈ xs, f x = g x := by
  constructor
  · intro h
    have hkeys := congrArg (List.map Prod.fst) h
    simp only [List.map_map, Function.comp_def, List.map_id'] at hkeys
    subst hkeys
    refine ⟨rfl, fun x hx => ?_⟩
    exact (Prod.mk.inj (List.map_inj_left.mp h x hx)).2
  · rintro ⟨rfl, h⟩
    exact List.map_congr_left fun x hx => by rw [h x hx]

namespace Statement

def node? : Statement → Option (Nat × String × Bool)
  | node i label isFunction => some (i, label, isFunction)
  | call _ _ _ => none

def call? : Statement → Option ((Nat × Nat) × Bool)
  | node _ _ _ => none
  | call i j isFunction => some ((i, j), isFunction)

end Statement

/-- Flowcharts say the same if they have the same nodes and calls, and in both graphs these
    have the same labels and kinds. -/
theorem statementsOf_eq_iff {g h : CallGraph} {nodes nodes' : List Nat}
    {calls calls' : List (Nat × Nat)} :
    statementsOf g nodes calls = statementsOf h nodes' calls' ↔
      nodes = nodes' ∧ calls = calls' ∧
      (∀ i ∈ nodes, escape (g.nameAt i) = escape (h.nameAt i) ∧
        g.isFunctionAt i = h.isFunctionAt i) ∧
      ∀ c ∈ calls, g.isFunctionAt c.2 = h.isFunctionAt c.2 := by
  constructor
  · intro heq
    have hnodes := congrArg (List.filterMap Statement.node?) heq
    have hcalls := congrArg (List.filterMap Statement.call?) heq
    simp only [statementsOf, List.filterMap_append, List.filterMap_map, Function.comp_def,
      Statement.node?, Statement.call?, List.filterMap_eq_map', List.filterMap_none,
      List.append_nil, List.nil_append] at hnodes hcalls
    obtain ⟨rfl, hlabels⟩ := map_mk_eq_map_mk_iff.mp hnodes
    obtain ⟨rfl, hkinds⟩ := map_mk_eq_map_mk_iff.mp hcalls
    exact ⟨rfl, rfl, fun i hi => Prod.mk.inj (hlabels i hi), hkinds⟩
  · rintro ⟨rfl, rfl, hnodes, hcalls⟩
    rw [statementsOf, statementsOf]
    refine congrArg₂ (· ++ ·) (List.map_congr_left fun i hi => ?_)
      (List.map_congr_left fun c hc => ?_)
    · rw [(hnodes i hi).1, (hnodes i hi).2]
    · rw [hcalls c hc]

theorem render_eq_render_iff {g h : CallGraph} {nodes nodes' : List Nat}
    {calls calls' : List (Nat × Nat)} :
    render g nodes calls = render h nodes' calls' ↔
      statementsOf g nodes calls = statementsOf h nodes' calls' := by
  rw [render_eq, render_eq]
  constructor
  · intro heq
    have hchars := congrArg String.toList heq
    rw [String.toList_append, String.toList_append] at hchars
    exact Statement.eq_of_join_text legible_of_mem_statementsOf legible_of_mem_statementsOf
      (String.toList_inj.mp (List.append_cancel_left hchars))
  · intro heq
    rw [heq]

/-- Whether an entity occurs in a name. -/
def HoldsEntity (name : String) : Prop := ∃ e ∈ entities, e.2.toList <:+: name.toList

instance (name : String) : Decidable (HoldsEntity name) := List.decidableBEx _ _

theorem decodeLabel_eq_self_iff {name : String} : decodeLabel name = name ↔ ¬ HoldsEntity name := by
  have hself : decodeLabel name = name ↔ unescape name.toList = name.toList := by
    rw [← String.toList_inj, decodeLabel, String.toList_ofList]
  rw [hself, unescape_eq_self_iff, HoldsEntity]
  push Not
  rfl

/-- **What a flowchart tells.** Two flowcharts have the same text exactly if they have the same
    nodes and the same calls between them, and the nodes have the same kinds and, once
    entities are read, the same names. An ampersand is written as itself, so the text does not
    tell a name with an entity from the name that it shows; two names have the same label
    exactly if they show the same. Where no entity occurs in the names, a label shows the name
    itself, and the text determines the names too. -/
theorem flowchart_determines_shown_names (g h : CallGraph) (nodes nodes' : List Nat)
    (calls calls' : List (Nat × Nat)) :
    (render g nodes calls = render h nodes' calls' ↔
      nodes = nodes' ∧ calls = calls' ∧
      (∀ i ∈ nodes, decodeLabel (g.nameAt i) = decodeLabel (h.nameAt i) ∧
        g.isFunctionAt i = h.isFunctionAt i) ∧
      ∀ c ∈ calls, g.isFunctionAt c.2 = h.isFunctionAt c.2) ∧
    ((∀ i ∈ nodes, ¬ HoldsEntity (g.nameAt i)) → (∀ i ∈ nodes', ¬ HoldsEntity (h.nameAt i)) →
      render g nodes calls = render h nodes' calls' →
      nodes.map (fun i => (g.nameAt i, g.isFunctionAt i)) =
        nodes'.map (fun i => (h.nameAt i, h.isFunctionAt i)) ∧ calls = calls') ∧
    (∀ a b, escape a = escape b ↔ decodeLabel a = decodeLabel b) ∧
    ∀ name, decodeLabel (escape name) = name ↔ ¬ HoldsEntity name := by
  have hrender : render g nodes calls = render h nodes' calls' ↔
      nodes = nodes' ∧ calls = calls' ∧
      (∀ i ∈ nodes, decodeLabel (g.nameAt i) = decodeLabel (h.nameAt i) ∧
        g.isFunctionAt i = h.isFunctionAt i) ∧
      ∀ c ∈ calls, g.isFunctionAt c.2 = h.isFunctionAt c.2 := by
    rw [render_eq_render_iff, statementsOf_eq_iff]
    simp only [escape_eq_escape_iff]
  refine ⟨hrender, ?_, fun a b => escape_eq_escape_iff, fun name => ?_⟩
  · intro hg hh heq
    obtain ⟨rfl, rfl, hnodes, -⟩ := hrender.mp heq
    refine ⟨List.map_congr_left fun i hi => ?_, rfl⟩
    obtain ⟨hname, hkind⟩ := hnodes i hi
    rw [decodeLabel_eq_self_iff.mpr (hg i hi), decodeLabel_eq_self_iff.mpr (hh i hi)] at hname
    rw [hname, hkind]
  · rw [decodeLabel_escape, decodeLabel_eq_self_iff]

/-- The graph of one call from a function to another name. -/
def callTo (name callee : String) : CallGraph :=
  CallGraph.empty.run [.function name "", .call name callee]

/-- The flowcharts of two calls to `<x>`, one from `a"b` and the other from `a&b`, differ. -/
theorem flowchart_determines_shown_names_quoted :
    (∀ i ∈ [0, 1], ¬ HoldsEntity ((callTo "a\"b" "<x>").nameAt i)) ∧
    (∀ i ∈ [0, 1], ¬ HoldsEntity ((callTo "a&b" "<x>").nameAt i)) ∧
    render (callTo "a\"b" "<x>") [0, 1] [(0, 1)] ≠ render (callTo "a&b" "<x>") [0, 1] [(0, 1)] ∧
    decodeLabel (escape "a\"b") = "a\"b" := by
  have hquoted : ∀ i ∈ [0, 1], ¬ HoldsEntity ((callTo "a\"b" "<x>").nameAt i) := by decide +kernel
  have hplain : ∀ i ∈ [0, 1], ¬ HoldsEntity ((callTo "a&b" "<x>").nameAt i) := by decide +kernel
  obtain ⟨-, hnames, -, hlabel⟩ := flowchart_determines_shown_names
    (callTo "a\"b" "<x>") (callTo "a&b" "<x>") [0, 1] [0, 1] [(0, 1)] [(0, 1)]
  refine ⟨hquoted, hplain, fun heq => ?_, (hlabel "a\"b").mpr (by decide +kernel)⟩
  exact absurd (hnames hquoted hplain heq).1 (by decide +kernel)

/-- The names `"` and `&quot;` have the same label, so the text does not tell a function with
    the one name from a function with the other. -/
theorem flowchart_confuses_names :
    (callTo "\"" "f").nodes.length = (callTo "&quot;" "f").nodes.length ∧
    render (callTo "\"" "f") [0, 1] [(0, 1)] = render (callTo "&quot;" "f") [0, 1] [(0, 1)] ∧
    (callTo "\"" "f").nameAt 0 ≠ (callTo "&quot;" "f").nameAt 0 ∧
    escape "\"" = escape "&quot;" ∧ decodeLabel (escape "&quot;") = "\"" := by
  decide +kernel

end CallAtlas.Export.Mermaid
