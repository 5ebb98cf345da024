import CallAtlas.Proofs.TokenPlaces
import CallAtlas.Syntax.Parse

/-! # Places of parsed trees

    Readings of a text split, wait and join, but none of this makes up a place: a derivation
    starts and ends where tokens do, or where the text does. Each operation on derivations,
    stacks and readings is shown to keep to the places of the text, and a whole run does so by
    induction on its steps. So every node of a parsed tree starts and ends at a place of the
    text.
-/

namespace CallAtlas.Grammar

open CallAtlas.Text

variable {text : String}

/-! ## Section 1: Derivations -/

namespace Derivation

/-- All parts of a derivation start and end at places of the text. -/
inductive LiesIn (text : String) : Derivation → Prop where
  | leaf {token : Nat} {start stop : Place} {extra : Bool} (hstart : start.LiesIn text)
      (hstop : stop.LiesIn text) : LiesIn text (.leaf token start stop extra)
  | node {symbol production : Nat} {weight : Int} {start stop : Place} {parts : List Derivation}
      (hstart : start.LiesIn text) (hstop : stop.LiesIn text)
      (hparts : ∀ d ∈ parts, LiesIn text d) :
      LiesIn text (.node symbol production weight start stop parts)

variable {d : Derivation}

theorem LiesIn.start (h : d.LiesIn text) : d.start.LiesIn text := by
  cases h with
  | leaf hstart _ => exact hstart
  | node hstart _ _ => exact hstart

theorem LiesIn.stop (h : d.LiesIn text) : d.stop.LiesIn text := by
  cases h with
  | leaf _ hstop => exact hstop
  | node _ hstop _ => exact hstop

theorem LiesIn.parts (h : d.LiesIn text) : ∀ e ∈ d.parts, e.LiesIn text := by
  cases h with
  | leaf => simp [Derivation.parts]
  | node _ _ hparts => exact hparts

/-- A completed production starts with its first part and ends with its last, or lies where
    its parts would begin. -/
theorem liesIn_complete {symbol production : Nat} {weight : Int} {base : Place}
    {parts : List Derivation} (hbase : base.LiesIn text) (hparts : ∀ d ∈ parts, d.LiesIn text) :
    (complete symbol production weight base parts).LiesIn text := by
  refine .node ?_ ?_ hparts
  · cases hfirst : parts.head? with
    | none => exact hbase
    | some d => exact (hparts d (List.mem_of_head? hfirst)).start
  · cases hlast : parts.getLast? with
    | none => exact hbase
    | some d => exact (hparts d (List.mem_of_getLast? hlast)).stop

end Derivation

/-! ## Section 2: Stacks -/

mutual

/-- All derivations of a stack lie in the text, and so do the places it has come to. -/
def Stack.LiesIn (text : String) : Stack → Prop
  | .node _ _ stop _ links => stop.LiesIn text ∧ links.LiesIn text

def Links.LiesIn (text : String) : Links → Prop
  | .nil => True
  | .cons tree below rest => tree.LiesIn text ∧ below.LiesIn text ∧ rest.LiesIn text

end

namespace Stack

variable {s : Stack}

theorem LiesIn.stop (h : s.LiesIn text) : s.stop.LiesIn text := by
  cases s
  exact h.1

theorem LiesIn.links (h : s.LiesIn text) : s.links.LiesIn text := by
  cases s
  exact h.2

theorem LiesIn.push (h : s.LiesIn text) {tree : Derivation} (htree : tree.LiesIn text) (id : Nat)
    (state : State) : (s.push id state tree).LiesIn text :=
  ⟨htree.stop, htree, h, trivial⟩

/-- The parts taken off a stack on a way down lie in the text, and so does what remains. -/
structure Descent.LiesIn (text : String) (d : Descent) : Prop where
  parts : ∀ tree ∈ d.parts, tree.LiesIn text
  stack : d.stack.LiesIn text

theorem Descent.liesIn_of_mem_across {parts : List Derivation} {left : Nat}
    (hparts : ∀ tree ∈ parts, tree.LiesIn text) {links : Links} (hlinks : links.LiesIn text) :
    ∀ d ∈ across parts left links, d.LiesIn text := by
  fun_induction across parts left links with
  | case1 => simp
  | case2 tree below rest ih =>
    obtain ⟨htree, hbelow, hrest⟩ := hlinks
    intro d hd
    rcases List.mem_cons.mp hd with rfl | hd
    · exact ⟨List.forall_mem_cons.mpr ⟨htree, hparts⟩, hbelow⟩
    · exact ih hrest d hd

theorem Descent.LiesIn.ways {d : Descent} (h : d.LiesIn text) : ∀ e ∈ d.ways, e.LiesIn text := by
  unfold Descent.ways
  split
  · simp
  · exact liesIn_of_mem_across h.parts h.stack.links

theorem Descent.liesIn_of_mem_round {ds : List Descent} (h : ∀ d ∈ ds, d.LiesIn text) :
    ∀ e ∈ round ds, e.LiesIn text := by
  intro e he
  rcases List.mem_append.mp he with he | he
  · obtain ⟨d, hd, hway⟩ := List.mem_filterMap.mp he
    exact (h d hd).ways e (List.mem_of_head? hway)
  · obtain ⟨d, hd, hway⟩ := List.mem_flatMap.mp he
    exact (h d hd).ways e (List.mem_of_mem_tail hway)

theorem Descent.liesIn_of_mem_run {ds : List Descent} (h : ∀ d ∈ ds, d.LiesIn text) :
    ∀ x ∈ run ds, (∀ tree ∈ x.1, tree.LiesIn text) ∧ x.2.LiesIn text := by
  fun_induction run ds with
  | case1 => simp
  | case2 d ds ih =>
    intro x hx
    rcases List.mem_append.mp hx with hx | hx
    · obtain ⟨e, he, hdone⟩ := List.mem_filterMap.mp hx
      split at hdone
      · cases hdone
        exact ⟨(h e he).parts, (h e he).stack⟩
      · cases hdone
    · exact ih (liesIn_of_mem_round h) x hx

theorem LiesIn.pop (h : s.LiesIn text) (n : Nat) :
    ∀ x ∈ s.pop n, (∀ tree ∈ x.1, tree.LiesIn text) ∧ x.2.LiesIn text := by
  refine Descent.liesIn_of_mem_run fun d hd => ?_
  rw [List.mem_singleton.mp hd]
  exact ⟨by simp, h⟩

theorem LiesIn.trees : ∀ {s : Stack}, s.LiesIn text → ∀ {above : List Derivation},
    (∀ tree ∈ above, tree.LiesIn text) → ∀ tree ∈ s.trees above, tree.LiesIn text
  | .node _ _ _ _ .nil, _, _, habove => habove
  | .node _ _ _ _ (.cons _ _ _), ⟨_, htree, hbelow, _⟩, _, habove =>
    hbelow.trees (List.forall_mem_cons.mpr ⟨htree, habove⟩)

/-! ## Section 3: Joined stacks -/

variable {alike : State → State → Bool}

theorem liesIn_joinLink {joinBelow : Stack → Stack} {tree : Derivation} {below : Stack}
    (hjoin : ∀ s, s.LiesIn text → (joinBelow s).LiesIn text) (htree : tree.LiesIn text)
    (hbelow : below.LiesIn text) (room : Nat) {links : Links} (hlinks : links.LiesIn text) :
    (joinLink alike joinBelow tree below room links).LiesIn text := by
  fun_induction joinLink alike joinBelow tree below room links with
  | case1 => exact hlinks
  | case2 => exact ⟨htree, hbelow, trivial⟩
  | case3 room tree' below' rest =>
    obtain ⟨htree', hbelow', hrest⟩ := hlinks
    refine ⟨?_, hbelow', hrest⟩
    split
    · exact htree
    · exact htree'
  | case4 room tree' below' rest =>
    obtain ⟨htree', hbelow', hrest⟩ := hlinks
    exact ⟨htree', hjoin below' hbelow', hrest⟩
  | case5 room tree' below' rest _ _ ih =>
    obtain ⟨htree', hbelow', hrest⟩ := hlinks
    exact ⟨htree', hbelow', ih hrest⟩

mutual

/-- Joined stacks hold what either of them holds. -/
theorem LiesIn.join : ∀ {a b : Stack}, a.LiesIn text → b.LiesIn text →
    (Stack.join alike a b).LiesIn text
  | .node _ _ _ _ _, .node _ _ _ _ _, ha, hb => by
    rw [Stack.join]
    exact LiesIn.joinLinks ha hb.2

theorem LiesIn.joinLinks : ∀ {a : Stack} {links : Links}, a.LiesIn text → links.LiesIn text →
    (Stack.joinLinks alike a links).LiesIn text
  | _, .nil, ha, _ => by
    rw [Stack.joinLinks]
    exact ha
  | .node _ _ _ _ _, .cons _ below _, ha, ⟨htree, hbelow, hrest⟩ => by
    rw [Stack.joinLinks]
    have hjoin : ∀ s, s.LiesIn text → (Stack.join alike s below).LiesIn text :=
      fun _ hs => LiesIn.join hs hbelow
    exact LiesIn.joinLinks ⟨ha.1, liesIn_joinLink hjoin htree hbelow linkCapacity ha.2⟩ hrest

end

end Stack

/-! ## Section 4: Readings -/

variable {σ : Type}

/-- A token starts and ends in the text, and the text goes on behind it. -/
structure Lexeme.LiesIn (text : String) (l : Lexeme σ) : Prop where
  start : l.start.LiesIn text
  stop : l.stop.LiesIn text
  cursor : l.cursor.StandsIn text

/-- A tokenizer that is asked at a cursor of the text answers with a token of the text. -/
def Tokenizer.KeepsTo (text : String) (tok : Tokenizer σ) : Prop :=
  ∀ {expected : TokenSet} {m : σ} {c : Cursor} {l : Lexeme σ}, c.StandsIn text →
    tok.next expected m c = some l → l.LiesIn text

structure Reading.LiesIn (text : String) (r : Reading σ) : Prop where
  stack : r.stack.LiesIn text
  cursor : r.cursor.StandsIn text

namespace Readings

/-- All readings lie in the text, and so does the one that is finished. -/
structure LiesIn (text : String) (p : Readings σ) : Prop where
  readings : ∀ r ∈ p.readings.toList, r.LiesIn text
  finished : ∀ d ∈ p.finished, d.LiesIn text

variable {p : Readings σ} {r : Reading σ} {i j : Nat}

theorem LiesIn.get? (h : p.LiesIn text) (hr : p.get? i = some r) : r.LiesIn text := by
  rw [Readings.get?, ← Array.getElem?_toList] at hr
  exact h.readings r (List.mem_of_getElem? hr)

theorem LiesIn.set (h : p.LiesIn text) (hr : r.LiesIn text) : (p.set i r).LiesIn text := by
  refine ⟨fun s hs => ?_, h.finished⟩
  rw [Readings.set, Array.toList_setIfInBounds] at hs
  rcases List.mem_or_eq_of_mem_set hs with hs | rfl
  · exact h.readings s hs
  · exact hr

/-- A change to one reading keeps to the text if it does so for every reading. -/
theorem LiesIn.modify (h : p.LiesIn text) {f : Reading σ → Reading σ}
    (hf : ∀ r, r.LiesIn text → (f r).LiesIn text) :
    LiesIn text { p with readings := p.readings.modify i f } := by
  refine ⟨fun s hs => ?_, h.finished⟩
  rw [Array.toList_modify] at hs
  obtain ⟨k, hk⟩ := List.mem_iff_getElem?.mp hs
  rw [List.getElem?_modify] at hk
  obtain ⟨r, hr, rfl⟩ := Option.map_eq_some_iff.mp hk
  have hr := h.readings r (List.mem_of_getElem? hr)
  split
  · exact hf r hr
  · exact hr

theorem LiesIn.drop (h : p.LiesIn text) : (p.drop i).LiesIn text :=
  h.modify fun _ hr => ⟨hr.stack, hr.cursor⟩

theorem LiesIn.moveTo (h : p.LiesIn text) : (p.moveTo j i).LiesIn text := by
  unfold Readings.moveTo
  split
  · exact h
  · next r hr =>
    refine ⟨fun s hs => ?_, h.finished⟩
    rw [Array.toList_eraseIdxIfInBounds, Array.toList_setIfInBounds] at hs
    rcases List.mem_or_eq_of_mem_set (List.mem_of_mem_eraseIdx hs) with hs | rfl
    · exact h.readings s hs
    · exact h.get? hr

/-! ## Section 5: Moves -/

theorem LiesIn.shift (h : p.LiesIn text) {t : Table} {l : Lexeme σ} {extra : Bool}
    (hl : l.LiesIn text) : (p.shift t i l extra).LiesIn text := by
  unfold Readings.shift
  split
  · exact h
  · next reading hreading =>
    have hstack := (h.get? hreading).stack
    exact LiesIn.set ⟨h.readings, h.finished⟩
      ⟨hstack.push (.leaf hl.start hl.stop) _ _, hl.cursor⟩

theorem LiesIn.better (h : p.LiesIn text) {whole : Derivation} (hwhole : whole.LiesIn text) :
    ((p.finished.map (Derivation.better · whole)).getD whole).LiesIn text := by
  cases hfinished : p.finished with
  | none => exact hwhole
  | some best =>
    show (Derivation.better best whole).LiesIn text
    unfold Derivation.better
    split
    · exact h.finished best hfinished
    · exact hwhole

/-- A finished reading goes from the start of the text to the cursor. -/
theorem LiesIn.accept (h : p.LiesIn text) : (p.accept i).LiesIn text := by
  unfold Readings.accept
  split
  · exact h
  · next reading hreading =>
    have hreading := h.get? hreading
    have htrees : ∀ d ∈ reading.stack.trees [], d.LiesIn text :=
      hreading.stack.trees (by simp)
    have hparts : ∀ d ∈ (reading.stack.trees []).flatMap
        (fun d => if d.isExtra then [d] else d.parts), d.LiesIn text := by
      intro d hd
      obtain ⟨tree, htree, hd⟩ := List.mem_flatMap.mp hd
      split at hd
      · rw [List.mem_singleton.mp hd]
        exact htrees tree htree
      · exact (htrees tree htree).parts d hd
    have hzero : Place.zero.LiesIn text := ⟨[], List.nil_prefix, rfl⟩
    have hplace := hreading.cursor.liesIn
    refine LiesIn.drop ⟨h.readings, fun d hd => ?_⟩
    obtain rfl := Option.mem_some.mp hd
    refine h.better ?_
    split
    · exact .node hzero hplace hparts
    · exact .node hzero hplace hparts

theorem liesIn_splitTrailing {parts : List Derivation} (h : ∀ d ∈ parts, d.LiesIn text) :
    (∀ d ∈ (splitTrailing parts).1, d.LiesIn text) ∧
      ∀ d ∈ (splitTrailing parts).2, d.LiesIn text := by
  constructor
  · intro d hd
    exact h d (List.mem_of_mem_take hd)
  · intro d hd
    have hd := (List.takeWhile_sublist _).subset (List.mem_reverse.mp hd)
    exact h d (List.mem_reverse.mp hd)

/-- The alternatives for a production lie in the text, and so does the stack they leave. -/
def GroupLiesIn (text : String) (group : Stack × List (List Derivation)) : Prop :=
  group.1.LiesIn text ∧ ∀ parts ∈ group.2, ∀ d ∈ parts, d.LiesIn text

theorem liesIn_groupByBase {slices : List (List Derivation × Stack)}
    (h : ∀ x ∈ slices, (∀ d ∈ x.1, d.LiesIn text) ∧ x.2.LiesIn text) :
    ∀ group ∈ groupByBase slices, GroupLiesIn text group := by
  refine List.foldlRecOn (motive := fun groups => ∀ group ∈ groups, GroupLiesIn text group)
    slices _ (by simp) ?_
  intro groups hgroups x hx
  obtain ⟨parts, base⟩ := x
  obtain ⟨hparts, hbase⟩ := h _ hx
  dsimp only
  split
  · intro group hgroup
    obtain ⟨⟨b, alternatives⟩, hmem, rfl⟩ := List.mem_map.mp hgroup
    obtain ⟨hb, halternatives⟩ := hgroups _ hmem
    dsimp only
    split
    · refine ⟨hb, fun other hother => ?_⟩
      rcases List.mem_append.mp hother with hother | hother
      · exact halternatives other hother
      · rw [List.mem_singleton.mp hother]
        exact hparts
    · exact ⟨hb, halternatives⟩
  · intro group hgroup
    rcases List.mem_append.mp hgroup with hgroup | hgroup
    · exact hgroups group hgroup
    · rw [List.mem_singleton.mp hgroup]
      refine ⟨hbase, fun other hother => ?_⟩
      rw [List.mem_singleton.mp hother]
      exact hparts

/-- The production that is completed and the extra leaves behind it lie in the text. -/
theorem liesIn_completeBest {r : State.Reduction} {base : Stack}
    {alternatives : List (List Derivation)} (h : GroupLiesIn text (base, alternatives)) :
    (completeBest r base alternatives).1.LiesIn text ∧
      ∀ d ∈ (completeBest r base alternatives).2, d.LiesIn text := by
  obtain ⟨hbase, halternatives⟩ := h
  have hbuild : ∀ parts, (∀ d ∈ parts, d.LiesIn text) →
      (Derivation.complete r.lhs r.production r.weight base.stop (splitTrailing parts).1).LiesIn
        text ∧ ∀ d ∈ (splitTrailing parts).2, d.LiesIn text := by
    intro parts hparts
    obtain ⟨hinner, hextras⟩ := liesIn_splitTrailing hparts
    exact ⟨Derivation.liesIn_complete hbase.stop hinner, hextras⟩
  unfold completeBest
  dsimp only
  split
  · exact hbuild [] (by simp)
  · next first others =>
    rw [List.forall_mem_cons] at halternatives
    refine List.foldlRecOn (motive := fun best : Derivation × List Derivation =>
      best.1.LiesIn text ∧ ∀ d ∈ best.2, d.LiesIn text) others _ (hbuild first halternatives.1) ?_
    intro best hbest parts hparts
    split
    · exact hbest
    · exact hbuild parts (halternatives.2 parts hparts)

variable [DecidableEq σ] {t : Table} {alike : State → State → Bool}

theorem LiesIn.add (h : p.LiesIn text) (hr : r.LiesIn text) :
    (p.add alike i r).LiesIn text := by
  unfold Readings.add
  split
  · refine ⟨fun s hs => ?_, h.finished⟩
    rw [Array.toList_push] at hs
    rcases List.mem_append.mp hs with hs | hs
    · exact h.readings s hs
    · rw [List.mem_singleton.mp hs]
      exact hr
  · exact h.modify fun s hs => ⟨hs.stack.join hr.stack, hs.cursor⟩

theorem LiesIn.reduce (h : p.LiesIn text) (r : State.Reduction) :
    (p.reduce t alike i r).LiesIn text := by
  unfold Readings.reduce
  split
  · exact h
  · next reading hreading =>
    have hreading := h.get? hreading
    have hgroups := liesIn_groupByBase (hreading.stack.pop r.length)
    refine List.foldlRecOn (motive := fun p : Readings σ => p.LiesIn text) _ _ h ?_
    rintro p hp ⟨base, alternatives⟩ hgroup
    dsimp only
    split
    · have hbase : base.LiesIn text := (hgroups _ hgroup).1
      obtain ⟨htree, hextras⟩ : _ ∧ _ := liesIn_completeBest (r := r) (hgroups _ hgroup)
      -- The extra leaves go back on top of the completed production.
      have hstack : ∀ state, (List.foldl (fun (s : Stack × Nat) extra =>
          (s.1.push s.2 state extra, s.2 + 1))
          (base.push p.nextId state (completeBest r base alternatives).1, p.nextId + 1)
          (completeBest r base alternatives).2).1.LiesIn text := by
        intro state
        refine List.foldlRecOn (motive := fun s : Stack × Nat => s.1.LiesIn text) _ _
          (hbase.push htree _ _) ?_
        intro s hs extra hextra
        exact hs.push (hextras extra hextra) _ _
      exact LiesIn.add ⟨hp.readings, hp.finished⟩ ⟨hstack _, hreading.cursor⟩
    · exact hp

/-! ## Section 6: Runs -/

variable {tok : Tokenizer σ}

theorem LiesIn.take {l : Lexeme σ} (hl : l.LiesIn text) (fuel : Nat) (h : p.LiesIn text) :
    (p.take t tok i l fuel).LiesIn text := by
  induction fuel generalizing p with
  | zero => exact h.drop
  | succ fuel ih =>
    unfold Readings.take
    split
    · exact h
    · next reading hreading =>
      split
      · exact h.shift hl
      · dsimp only
        split
        · exact h.accept
        · -- Every reduction that applies is made, and each leaves the readings in the text.
          have hreduced : (List.foldl (fun (x : Readings σ × Option Nat) r =>
              (x.1.reduce t (State.alike t tok.steering) i r,
                if x.1.readings.size < (x.1.reduce t (State.alike t tok.steering) i r).readings.size
                then some x.1.readings.size else x.2))
              (p, none) (reading.stack.state.moves t l.token).reductions).1.LiesIn text := by
            refine List.foldlRecOn (motive := fun x : Readings σ × Option Nat => x.1.LiesIn text)
              _ _ h ?_
            intro x hx r _
            exact hx.reduce r
          split
          · exact hreduced.shift hl
          · split
            · exact hreduced.drop
            · exact ih hreduced.moveTo

/-- One token further, a reading still lies in the text. -/
theorem LiesIn.advance (htok : tok.KeepsTo text) (h : p.LiesIn text) (fuel i : Nat) :
    (p.advance t tok fuel i).LiesIn text := by
  unfold Readings.advance
  split
  · exact h
  · next reading hreading =>
    split
    · exact h.drop
    · next l hl =>
      exact h.take (htok (h.get? hreading).cursor hl) fuel

theorem LiesIn.catchUp (htok : tok.KeepsTo text) (limit i : Nat) (fuel reached : Nat)
    (h : p.LiesIn text) : (p.catchUp t tok limit i fuel reached).1.LiesIn text := by
  induction fuel generalizing p with
  | zero => exact h
  | succ fuel ih =>
    have hnext := h.advance (t := t) htok limit i
    unfold Readings.catchUp
    split
    · exact h
    · split
      · exact h
      · dsimp only
        split
        · exact hnext
        · exact ih hnext

theorem LiesIn.advanceAll (htok : tok.KeepsTo text) (limit fuel i reached : Nat)
    (h : p.LiesIn text) : (p.advanceAll t tok limit fuel i reached).1.LiesIn text := by
  induction fuel generalizing p i reached with
  | zero => exact h
  | succ fuel ih =>
    unfold Readings.advanceAll
    split
    · exact ih _ _ (h.catchUp htok limit i limit reached)
    · exact h

/-- Settling a reading moves readings and joins two of them. -/
theorem liesIn_settle (alike : State → State → Bool) (weight : Int) {r : Reading σ}
    {ahead : List (Reading σ)} (hr : r.LiesIn text) (hahead : ∀ s ∈ ahead, s.LiesIn text) :
    (∀ s ∈ (settle alike weight r ahead).1, s.LiesIn text) ∧
      ∀ s ∈ (settle alike weight r ahead).2, s.LiesIn text := by
  fun_induction settle alike weight r ahead with
  | case1 r => simpa using hr
  | case2 r other rest hjoin =>
    obtain ⟨hother, hrest⟩ := List.forall_mem_cons.mp hahead
    have hjoined : Reading.LiesIn text { other with stack := other.stack.join alike r.stack } :=
      ⟨hother.stack.join hr.stack, hother.cursor⟩
    exact ⟨List.forall_mem_cons.mpr ⟨hjoined, hrest⟩, by simp⟩
  | case3 r other rest hjoin hlighter rest' left hsettle ih =>
    obtain ⟨hother, hrest⟩ := List.forall_mem_cons.mp hahead
    obtain ⟨hsettled, hleft⟩ := ih hother hrest
    rw [hsettle] at hsettled hleft
    exact ⟨List.forall_mem_cons.mpr ⟨hr, hsettled⟩, hleft⟩
  | case4 r other rest hjoin hlighter rest' left hsettle ih =>
    obtain ⟨hother, hrest⟩ := List.forall_mem_cons.mp hahead
    obtain ⟨hsettled, hleft⟩ := ih hr hrest
    rw [hsettle] at hsettled hleft
    exact ⟨List.forall_mem_cons.mpr ⟨hother, hsettled⟩, hleft⟩

theorem LiesIn.condense (h : p.LiesIn text) : (p.condense alike).LiesIn text := by
  refine ⟨fun s hs => ?_, h.finished⟩
  rw [Readings.condense, List.toList_toArray] at hs
  refine List.foldlRecOn (motive := fun done : List (Reading σ) => ∀ s ∈ done, s.LiesIn text)
    p.readings.toList _ ?_ ?_ s (List.mem_of_mem_take hs)
  · exact fun _ hnone => absurd hnone List.not_mem_nil
  · intro done hdone r hr
    obtain ⟨hsettled, hleft⟩ := liesIn_settle alike r.stack.weight (h.readings r hr) hdone
    split
    · exact hdone
    · split
      · next done' hsettle =>
        rw [hsettle] at hsettled
        exact hsettled
      · next done' last hsettle =>
        rw [hsettle] at hsettled hleft
        exact List.forall_mem_append.mpr ⟨hsettled, by simpa using hleft last rfl⟩

theorem LiesIn.run (htok : tok.KeepsTo text) (limit fuel reached : Nat) (h : p.LiesIn text) :
    ∀ d ∈ run t tok limit fuel reached p, d.LiesIn text := by
  induction fuel generalizing p reached with
  | zero => exact h.finished
  | succ fuel ih =>
    unfold Readings.run
    split
    · exact h.finished
    · exact ih _ (h.advanceAll htok limit limit 0 reached).condense

end Readings

/-- What is read lies in the text. -/
theorem liesIn_of_read [DecidableEq σ] {t : Table} {tok : Tokenizer σ} (htok : tok.KeepsTo text)
    {d : Derivation} (h : read t tok text = some d) : d.LiesIn text := by
  have hzero : Place.zero.LiesIn text := ⟨[], List.nil_prefix, rfl⟩
  refine Readings.LiesIn.run htok _ _ _ ⟨fun r hr => ?_, by simp⟩ d h
  rw [List.mem_singleton.mp hr]
  exact ⟨⟨hzero, trivial⟩, Cursor.standsIn_ofString text⟩

end CallAtlas.Grammar

namespace CallAtlas.Syntax

open CallAtlas.Text
open CallAtlas.Grammar

/-! ## Section 7: Trees -/

variable {text : String}

namespace Node

/-- Every node of a tree starts and ends at a place of the text. -/
def PlacedIn (text : String) (root : Node) : Prop :=
  ∀ n ∈ root.preorder, n.start.LiesIn text ∧ n.stop.LiesIn text

instance (text : String) (root : Node) : Decidable (root.PlacedIn text) := List.decidableBAll _ _

theorem placedIn_of_children {n : Node} (hstart : n.start.LiesIn text) (hstop : n.stop.LiesIn text)
    (hchildren : ∀ c ∈ n.children, c.PlacedIn text) : n.PlacedIn text := by
  intro m hm
  rw [n.preorder_eq] at hm
  rcases List.mem_cons.mp hm with rfl | hm
  · exact ⟨hstart, hstop⟩
  · obtain ⟨c, hc, hm⟩ := List.mem_flatMap.mp hm
    exact hchildren c hc m hm

theorem PlacedIn.child {n c : Node} (h : n.PlacedIn text) (hc : c ∈ n.children) :
    c.PlacedIn text :=
  fun m hm => h m (mem_preorder_of_mem_children hc hm)

end Node

/-- A role does not change where a node lies. -/
theorem placedIn_withField {nodes : List Node} (h : ∀ n ∈ nodes, n.PlacedIn text)
    (f : Option Field) : ∀ n ∈ withField f nodes, n.PlacedIn text := by
  unfold withField
  split
  · exact h
  · next f =>
    intro n hn
    obtain ⟨m, hm, rfl⟩ := List.mem_map.mp hn
    have hplaces := h m hm m m.mem_preorder_self
    exact Node.placedIn_of_children hplaces.1 hplaces.2 fun c hc => (h m hm).child hc

/-- The first of several parts is shown under some label, and the others behind it. -/
theorem exists_showParts_cons (phrases : Array Phrase) (t : Table) (labels : List Label)
    (d : Derivation) (ds : List Derivation) :
    ∃ label rest, showParts phrases t labels (d :: ds) =
      showDerivation phrases t label d ++ showParts phrases t rest ds := by
  cases labels with
  | nil =>
    rw [showParts]
    split
    · exact ⟨_, _, rfl⟩
    · exact ⟨_, _, rfl⟩
  | cons label labels =>
    rw [showParts]
    split
    · exact ⟨_, _, rfl⟩
    · exact ⟨_, _, rfl⟩

variable {phrases : Array Phrase} {t : Table}

mutual

/-- A derivation is shown by nodes that lie where its parts do. -/
theorem placedIn_showDerivation : ∀ {d : Derivation}, d.LiesIn text → ∀ (label : Label),
    ∀ n ∈ showDerivation phrases t label d, n.PlacedIn text
  | .leaf token start stop extra, .leaf hstart hstop, label => by
    have hleaf : ∀ kind field, ∀ n ∈ [(⟨kind, start, stop, field, extra, .sound, []⟩ : Node)],
        n.PlacedIn text := by
      intro kind field n hn
      rw [List.mem_singleton.mp hn]
      exact Node.placedIn_of_children hstart hstop (by simp)
    rw [showDerivation]
    split
    · exact hleaf _ _
    · split
      · simp
      · exact hleaf _ _
  | .node symbol production weight start stop parts, .node hstart hstop hparts, label => by
    have hchildren := placedIn_showParts hparts
      (((t.productions.getD production default).steps.toList).map (·.label))
    have hnode : ∀ kind, ∀ n ∈ [(⟨kind, start, stop, label.field, false, .sound,
        showParts phrases t
          (((t.productions.getD production default).steps.toList).map (·.label)) parts⟩ : Node)],
        n.PlacedIn text := by
      intro kind n hn
      rw [List.mem_singleton.mp hn]
      exact Node.placedIn_of_children hstart hstop hchildren
    rw [showDerivation]
    split
    · exact hnode _
    · split
      · split
        · exact placedIn_withField hchildren _
        · exact hnode _
      · exact placedIn_withField hchildren _

theorem placedIn_showParts : ∀ {ds : List Derivation}, (∀ d ∈ ds, d.LiesIn text) →
    ∀ (labels : List Label), ∀ n ∈ showParts phrases t labels ds, n.PlacedIn text
  | [], _, labels => by simp [showParts]
  | d :: ds, h, labels => by
    obtain ⟨hd, hds⟩ := List.forall_mem_cons.mp h
    obtain ⟨label, rest, hshown⟩ := exists_showParts_cons phrases t labels d ds
    rw [hshown]
    exact List.forall_mem_append.mpr ⟨placedIn_showDerivation hd label, placedIn_showParts hds rest⟩

end

/-- A parsed tree lies in its text. -/
theorem placedIn_of_parse {root : Node} (h : parse text = some root) : root.PlacedIn text := by
  unfold parse at h
  split at h
  · cases h
  · next d hread =>
    have htok : pythonVocabulary.tokenizer.KeepsTo text := by
      intro expected m c l hc hl
      obtain ⟨first, hfirst, hstart, hcursor, hstop⟩ := Vocabulary.cutFrom_of_next hl
      have hfirst := hc.of_leadsTo hfirst
      have hbehind := hfirst.of_leadsTo hcursor
      exact ⟨hstart ▸ hfirst.liesIn, hstop ▸ hbehind.liesIn, hbehind⟩
    exact placedIn_showDerivation (liesIn_of_read htok hread) _ root (List.mem_of_head? h)

end CallAtlas.Syntax
