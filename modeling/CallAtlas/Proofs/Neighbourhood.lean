import CallAtlas.Export.Drawing
import Mathlib.Logic.Function.Iterate

/-! # The neighbourhood of a focus

    An export with a focus shows the candidates that trails of at most so many calls join to
    a function in focus. The search marks a node when it enters the queue, so it must never
    be first met on a detour: the queue holds nodes of one level, then nodes of the next, and
    a level is done before the next begins.
-/

namespace CallAtlas.Export

open CallAtlas.Graph

/-! ## Section 1: Trails between candidates -/

/-- A node that an export may show. -/
def Candidate (g : CallGraph) (scope : Scope) (i : Nat) : Prop :=
  i < g.nodes.length ∧ (scope.includeUnresolved = true ∨ g.isFunctionAt i = true)

/-- A call joins two nodes, in either direction. -/
def Joined (g : CallGraph) (i j : Nat) : Prop := (i, j) ∈ g.calls ∨ (j, i) ∈ g.calls

/-- A trail from one candidate to another, with the number of its calls. -/
inductive Trail (g : CallGraph) (scope : Scope) : Nat → Nat → Nat → Prop where
  | here {i : Nat} : Candidate g scope i → Trail g scope i i 0
  | step {i j l k : Nat} :
      Trail g scope i j k → Joined g j l → Candidate g scope l → Trail g scope i l (k + 1)

/-- A trail of at most `k` calls leads to a node from one of the seeds. -/
def Within (g : CallGraph) (scope : Scope) (seeds : List Nat) (k i : Nat) : Prop :=
  ∃ seed ∈ seeds, ∃ m ≤ k, Trail g scope seed i m

variable {g : CallGraph} {scope : Scope} {seeds : List Nat}

theorem candidate_iff {i : Nat} :
    Candidate g scope i ↔ i < g.nodes.length ∧ isCandidate g scope i = true := by
  simp [Candidate, isCandidate]

theorem Joined.lt {i j : Nat} (h : Joined g i j) : j < g.nodes.length := by
  rcases h with h | h
  · exact (g.calls_lt _ h).2
  · exact (g.calls_lt _ h).1

theorem mem_neighbours_iff {i j : Nat} : j ∈ neighbours g i ↔ Joined g i j := by
  simp [neighbours, Joined]

theorem Trail.candidate {i j k : Nat} (h : Trail g scope i j k) : Candidate g scope j := by
  cases h with
  | here h => exact h
  | step _ _ h => exact h

theorem Within.mono {k l i : Nat} (h : Within g scope seeds k i) (hle : k ≤ l) :
    Within g scope seeds l i := by
  obtain ⟨seed, hseed, m, hm, htrail⟩ := h
  exact ⟨seed, hseed, m, Nat.le_trans hm hle, htrail⟩

theorem Within.joined {k i j : Nat} (h : Within g scope seeds k i) (hjoined : Joined g i j)
    (hj : Candidate g scope j) : Within g scope seeds (k + 1) j := by
  obtain ⟨seed, hseed, m, hm, htrail⟩ := h
  exact ⟨seed, hseed, m + 1, Nat.succ_le_succ hm, htrail.step hjoined hj⟩

theorem Within.cases {k i : Nat} (h : Within g scope seeds (k + 1) i) :
    Within g scope seeds k i ∨
      ∃ j, Within g scope seeds k j ∧ Joined g j i ∧ Candidate g scope i := by
  obtain ⟨seed, hseed, m, hm, htrail⟩ := h
  cases htrail with
  | here h => exact .inl ⟨_, hseed, 0, Nat.zero_le k, .here h⟩
  | step htrail hjoined hi =>
    exact .inr ⟨_, ⟨seed, hseed, _, Nat.le_of_succ_le_succ hm, htrail⟩, hjoined, hi⟩

theorem within_zero_iff (hseeds : ∀ i ∈ seeds, Candidate g scope i) {i : Nat} :
    Within g scope seeds 0 i ↔ i ∈ seeds := by
  constructor
  · rintro ⟨seed, hseed, m, hm, htrail⟩
    obtain rfl : m = 0 := Nat.le_zero.mp hm
    cases htrail
    exact hseed
  · exact fun hi => ⟨i, hi, 0, Nat.le_refl 0, .here (hseeds i hi)⟩

/-! ## Section 2: What one step finds -/

namespace Frontier

/-- What looking at some nodes does: those among them that are new candidates are marked and
    enter the queue. -/
structure Discovered (g : CallGraph) (scope : Scope) (hops : Nat) (nodes : List Nat)
    (s t : Frontier) (new : List Nat) : Prop where
  bound_eq : t.found.bound = s.found.bound
  queue_eq : t.queue = s.queue ++ new.map (·, hops)
  found_iff : ∀ j, t.found.contains j = true ↔ s.found.contains j = true ∨ j ∈ new
  new_iff : ∀ j, j ∈ new ↔
    j ∈ nodes ∧ isCandidate g scope j = true ∧ s.found.lacks j = true

theorem exists_discovered (g : CallGraph) (scope : Scope) (hops : Nat) (nodes : List Nat)
    (s : Frontier) :
    ∃ new, Discovered g scope hops nodes s (nodes.foldl (discover g scope hops) s) new := by
  induction nodes generalizing s with
  | nil => exact ⟨[], by simp, by simp, by simp, by simp⟩
  | cons i rest ih =>
    rw [List.foldl_cons]
    obtain ⟨new, hnew⟩ := ih (s.discover g scope hops i)
    by_cases hi : (isCandidate g scope i && s.found.lacks i) = true
    · have hstate : s.discover g scope hops i = ⟨s.found.insert i, s.queue ++ [(i, hops)]⟩ :=
        if_pos hi
      obtain ⟨hcandidate, hlacks⟩ := Bool.and_eq_true_iff.mp hi
      have hlt := (NodeSet.lacks_iff.mp hlacks).1
      rw [hstate] at hnew ⊢
      refine ⟨i :: new, ?_, ?_, ?_, ?_⟩
      · simpa using hnew.bound_eq
      · simpa using hnew.queue_eq
      · intro j
        rw [hnew.found_iff, NodeSet.contains_insert, List.mem_cons, or_assoc]
        simp only [hlt, and_true]
      · intro j
        rw [List.mem_cons, hnew.new_iff, NodeSet.lacks_insert hlt, List.mem_cons]
        grind
    · have hstate : s.discover g scope hops i = s := if_neg hi
      rw [hstate] at hnew ⊢
      refine ⟨new, hnew.bound_eq, hnew.queue_eq, hnew.found_iff, ?_⟩
      intro j
      rw [hnew.new_iff, List.mem_cons]
      grind

variable {s t : Frontier} {new : List Nat}

theorem Discovered.mem_queue_iff {hops : Nat} {nodes : List Nat}
    (h : Discovered g scope hops nodes s t new) {j k : Nat} :
    (j, k) ∈ t.queue ↔ (j, k) ∈ s.queue ∨ j ∈ new ∧ k = hops := by
  rw [h.queue_eq, List.mem_append, List.mem_map]
  grind

/-- What is discovered next to a node are candidates joined to it. -/
theorem Discovered.joined_of_mem {hops i j : Nat}
    (h : Discovered g scope hops (neighbours g i) s t new) (hj : j ∈ new) :
    Joined g i j ∧ Candidate g scope j := by
  obtain ⟨hmem, hcandidate, -⟩ := (h.new_iff j).mp hj
  have hjoined := mem_neighbours_iff.mp hmem
  exact ⟨hjoined, candidate_iff.mpr ⟨hjoined.lt, hcandidate⟩⟩

/-- No candidate next to a node is left out. -/
theorem Discovered.found_of_joined {hops i j : Nat}
    (h : Discovered g scope hops (neighbours g i) s t new)
    (hbound : s.found.bound = g.nodes.length) (hjoined : Joined g i j)
    (hj : Candidate g scope j) : t.found.contains j = true := by
  rw [h.found_iff]
  by_cases hlacks : s.found.lacks j = true
  · exact .inr ((h.new_iff j).mpr
      ⟨mem_neighbours_iff.mpr hjoined, (candidate_iff.mp hj).2, hlacks⟩)
  · exact .inl (NodeSet.contains_of_not_lacks (hbound ▸ hj.1) hlacks)

/-! ## Section 3: The levels of the search -/

/-- The search is at a level: all that is nearer has been dealt with, the nodes of this level
    that have not are in the queue, and behind them those of the next. -/
structure Level (g : CallGraph) (scope : Scope) (seeds : List Nat) (h : Nat) (s : Frontier) :
    Prop where
  bound_eq : s.found.bound = g.nodes.length
  le_depth : h ≤ scope.depth
  -- All that is found is near enough, and nothing up to this level is missing.
  sound : ∀ i, s.found.contains i = true → Within g scope seeds scope.depth i
  cover : ∀ i, Within g scope seeds h i → s.found.contains i = true
  queued : ∀ i k, (i, k) ∈ s.queue →
    (k = h ∨ k = h + 1) ∧ k ≤ scope.depth ∧ Within g scope seeds k i
  ordered : s.queue.Pairwise fun p q => p.2 ≤ q.2
  -- What is found beyond this level waits for the next one. At the full depth nothing is, and
  -- the neighbours of a node of this level do not count.
  ahead : ∀ i, s.found.contains i = true → Within g scope seeds h i ∨ (i, h + 1) ∈ s.queue
  done : h < scope.depth → ∀ i, Within g scope seeds h i →
    (i, h) ∈ s.queue ∨
      ∀ j, Joined g i j → Candidate g scope j → s.found.contains j = true

variable {h : Nat}

/-- When no node of a level is left in the queue, the search is at the next level. -/
theorem Level.advance (hlevel : Level g scope seeds h s) (hlt : h < scope.depth)
    (hqueue : ∀ i k, (i, k) ∈ s.queue → k = h + 1) : Level g scope seeds (h + 1) s := by
  have hdone : ∀ i, Within g scope seeds h i → ∀ j, Joined g i j → Candidate g scope j →
      s.found.contains j = true := by
    intro i hi
    refine (hlevel.done hlt i hi).resolve_left fun hmem => ?_
    have := hqueue i h hmem
    omega
  -- A node one call beyond the level is next to a node whose neighbours have been found.
  have hcover : ∀ i, Within g scope seeds (h + 1) i → s.found.contains i = true := by
    intro i hi
    rcases hi.cases with hi | ⟨j, hj, hjoined, hi⟩
    · exact hlevel.cover i hi
    · exact hdone j hj i hjoined hi
  refine ⟨hlevel.bound_eq, hlt, hlevel.sound, hcover, ?_, hlevel.ordered, ?_, ?_⟩
  · intro i k hmem
    exact ⟨.inl (hqueue i k hmem), (hlevel.queued i k hmem).2⟩
  · intro i hi
    rcases hlevel.ahead i hi with hi | hmem
    · exact .inl (hi.mono (Nat.le_succ h))
    · exact .inl (hlevel.queued i (h + 1) hmem).2.2
  · intro _ i hi
    rcases hlevel.ahead i (hcover i hi) with hi | hmem
    · exact .inr (hdone i hi)
    · exact .inl hmem

/-- A node as far away as may be is dropped. -/
theorem Level.drop {i : Nat} {found : NodeSet} {rest : List (Nat × Nat)}
    (hlevel : Level g scope seeds h ⟨found, (i, h) :: rest⟩) (hle : scope.depth ≤ h) :
    Level g scope seeds h ⟨found, rest⟩ := by
  refine ⟨hlevel.bound_eq, hlevel.le_depth, hlevel.sound, hlevel.cover, ?_,
    (List.pairwise_cons.mp hlevel.ordered).2, ?_, fun hlt => absurd hlt (Nat.not_lt.mpr hle)⟩
  · exact fun j k hmem => hlevel.queued j k (List.mem_cons_of_mem _ hmem)
  · intro j hj
    refine (hlevel.ahead j hj).imp_right fun hmem => ?_
    simpa using hmem

/-- Going on from a node of the level finds its neighbours for the next. -/
theorem Level.expand {i : Nat} {found : NodeSet} {rest : List (Nat × Nat)}
    (hlevel : Level g scope seeds h ⟨found, (i, h) :: rest⟩) (hlt : h < scope.depth)
    (hnew : Discovered g scope (h + 1) (neighbours g i) ⟨found, rest⟩ t new) :
    Level g scope seeds h t := by
  have hmono : ∀ j, found.contains j = true → t.found.contains j = true :=
    fun j hj => (hnew.found_iff j).mpr (.inl hj)
  have hwithin : ∀ j ∈ new, Within g scope seeds (h + 1) j := by
    intro j hj
    obtain ⟨hjoined, hcandidate⟩ := hnew.joined_of_mem hj
    exact (hlevel.queued i h List.mem_cons_self).2.2.joined hjoined hcandidate
  refine ⟨hnew.bound_eq.trans hlevel.bound_eq, hlevel.le_depth, ?_, ?_, ?_, ?_, ?_, ?_⟩
  · intro j hj
    rcases (hnew.found_iff j).mp hj with hj | hj
    · exact hlevel.sound j hj
    · exact (hwithin j hj).mono hlt
  · exact fun j hj => hmono j (hlevel.cover j hj)
  · intro j k hmem
    rcases hnew.mem_queue_iff.mp hmem with hmem | ⟨hj, rfl⟩
    · exact hlevel.queued j k (List.mem_cons_of_mem _ hmem)
    · exact ⟨.inr rfl, hlt, hwithin j hj⟩
  · rw [hnew.queue_eq]
    refine List.pairwise_append.mpr ⟨(List.pairwise_cons.mp hlevel.ordered).2, ?_, ?_⟩
    · exact List.pairwise_map.mpr (List.pairwise_of_forall fun _ _ => Nat.le_refl _)
    · -- What was in the queue is of this level or the next.
      rintro ⟨j, k⟩ hj _ hq
      obtain ⟨l, -, rfl⟩ := List.mem_map.mp hq
      rcases (hlevel.queued j k (List.mem_cons_of_mem _ hj)).1 with rfl | rfl
      · exact Nat.le_succ _
      · exact Nat.le_refl _
  · intro j hj
    rw [hnew.mem_queue_iff]
    rcases (hnew.found_iff j).mp hj with hj | hj
    · rcases hlevel.ahead j hj with hj | hmem
      · exact .inl hj
      · exact .inr (.inl (by simpa using hmem))
    · exact .inr (.inr ⟨hj, rfl⟩)
  · intro _ j hj
    rw [hnew.mem_queue_iff]
    rcases hlevel.done hlt j hj with hmem | hfound
    · rcases List.mem_cons.mp hmem with heq | hmem
      · obtain rfl : j = i := congrArg Prod.fst heq
        exact .inr fun l hjoined hl => hnew.found_of_joined hlevel.bound_eq hjoined hl
      · exact .inl (.inl hmem)
    · exact .inr fun l hjoined hl => hmono l (hfound l hjoined hl)

/-- One step of the search keeps to the levels. -/
theorem Level.step (hlevel : Level g scope seeds h s) (hne : s.queue ≠ []) :
    ∃ h', Level g scope seeds h' (s.step g scope) := by
  obtain ⟨found, queue⟩ := s
  obtain ⟨⟨i, k⟩, rest, rfl⟩ := List.exists_cons_of_ne_nil hne
  -- The first node in the queue is of the level, if need be the next one.
  have hfirst : Level g scope seeds k ⟨found, (i, k) :: rest⟩ := by
    obtain ⟨hk, hle, -⟩ := hlevel.queued i k List.mem_cons_self
    rcases hk with rfl | rfl
    · exact hlevel
    · refine hlevel.advance hle fun j l hmem => ?_
      rcases List.mem_cons.mp hmem with heq | hmem'
      · exact congrArg Prod.snd heq
      · have hge : h + 1 ≤ l := (List.pairwise_cons.mp hlevel.ordered).1 _ hmem'
        have hl := (hlevel.queued j l hmem).1
        omega
  refine ⟨k, ?_⟩
  show Level g scope seeds k (if scope.depth ≤ k then _ else _)
  by_cases hle : scope.depth ≤ k
  · rw [if_pos hle]
    exact hfirst.drop hle
  · rw [if_neg hle]
    obtain ⟨new, hnew⟩ := exists_discovered g scope (k + 1) (neighbours g i) ⟨found, rest⟩
    exact hfirst.expand (Nat.lt_of_not_le hle) hnew

/-- With an empty queue, the search has found all that is near enough. -/
theorem Level.found_iff (hlevel : Level g scope seeds h s) (hqueue : s.queue = []) {i : Nat} :
    s.found.contains i = true ↔ Within g scope seeds scope.depth i := by
  refine ⟨hlevel.sound i, fun hi => hlevel.cover i ?_⟩
  rcases Nat.eq_or_lt_of_le hlevel.le_depth with rfl | hlt
  · exact hi
  · -- Short of the full depth, the nodes of this level have no neighbours further away.
    have hclosed : ∀ k i, Within g scope seeds k i → Within g scope seeds h i := by
      intro k
      induction k with
      | zero => exact fun i hi => hi.mono (Nat.zero_le h)
      | succ k ih =>
        intro i hi
        rcases hi.cases with hi | ⟨j, hj, hjoined, hi⟩
        · exact ih i hi
        · have hdone := hlevel.done hlt j (ih j hj)
          have hfound : s.found.contains i = true := by
            refine hdone.resolve_left ?_ i hjoined hi
            simp [hqueue]
          exact (hlevel.ahead i hfound).resolve_right (by simp [hqueue])
    exact hclosed scope.depth i hi

/-- A search starts at the level of its seeds. -/
theorem level_start (hseeds : ∀ i ∈ seeds, Candidate g scope i) :
    Level g scope seeds 0 (start g.nodes.length seeds) := by
  have hfound : ∀ i, (start g.nodes.length seeds).found.contains i = true ↔ i ∈ seeds := by
    intro i
    have hlt : ∀ i ∈ seeds, i < (NodeSet.empty g.nodes.length).bound := by
      simpa using fun i hi => (hseeds i hi).1
    simpa [start] using NodeSet.contains_foldl_insert hlt
  have hqueue : ∀ i k, (i, k) ∈ (start g.nodes.length seeds).queue ↔ i ∈ seeds ∧ k = 0 := by
    intro i k
    rw [start, List.mem_map]
    grind
  refine ⟨?_, Nat.zero_le _, ?_, ?_, ?_, ?_, ?_, ?_⟩
  · simpa [start] using NodeSet.bound_foldl_insert (.empty g.nodes.length) seeds
  · intro i hi
    exact ((within_zero_iff hseeds).mpr ((hfound i).mp hi)).mono (Nat.zero_le _)
  · exact fun i hi => (hfound i).mpr ((within_zero_iff hseeds).mp hi)
  · intro i k hmem
    obtain ⟨hi, rfl⟩ := (hqueue i k).mp hmem
    exact ⟨.inl rfl, Nat.zero_le _, (within_zero_iff hseeds).mpr hi⟩
  · exact List.pairwise_map.mpr (List.pairwise_of_forall fun _ _ => Nat.le_refl 0)
  · exact fun i hi => .inl ((within_zero_iff hseeds).mpr ((hfound i).mp hi))
  · exact fun _ i hi => .inl ((hqueue i 0).mpr ⟨(within_zero_iff hseeds).mp hi, rfl⟩)

/-- The whole run keeps to the levels, up to an empty queue. -/
theorem Level.run_iff (hlevel : Level g scope seeds h s) {i : Nat} :
    (s.run g scope).contains i = true ↔ Within g scope seeds scope.depth i := by
  induction s using run.induct g scope generalizing h with
  | case1 s hqueue =>
    rw [run, dif_pos hqueue]
    exact hlevel.found_iff hqueue
  | case2 s hqueue ih =>
    -- The level may have changed with the step, so the induction is for every level.
    rw [run, dif_neg hqueue]
    obtain ⟨h', hlevel'⟩ := hlevel.step hqueue
    exact ih hlevel'

/-! ## Section 4: The end of the search -/

/-- The search is over after as many steps as are pending, or fewer. -/
theorem exists_run_eq (g : CallGraph) (scope : Scope) (s : Frontier) :
    ∃ m ≤ s.pending, ((step g scope)^[m] s).queue = [] ∧
      s.run g scope = ((step g scope)^[m] s).found := by
  induction s using run.induct g scope with
  | case1 s hqueue =>
    refine ⟨0, Nat.zero_le _, hqueue, ?_⟩
    rw [run, dif_pos hqueue]
    rfl
  | case2 s hqueue ih =>
    obtain ⟨m, hm, hempty, hrun⟩ := ih
    have hpending := pending_step g scope s hqueue
    refine ⟨m + 1, by omega, hempty, ?_⟩
    rw [run, dif_neg hqueue]
    exact hrun

/-- From seeds without repetition, no more steps are pending than there are nodes. -/
theorem pending_start {n : Nat} (hnodup : seeds.Nodup) (hlt : ∀ i ∈ seeds, i < n) :
    (start n seeds).pending = n := by
  have hlacks : ∀ i ∈ seeds, (NodeSet.empty n).lacks i = true :=
    fun i hi => NodeSet.lacks_iff.mpr ⟨by simpa using hlt i hi, NodeSet.contains_empty n i⟩
  have hroom := NodeSet.room_foldl_insert hnodup hlacks
  simpa [pending, start, NodeSet.room, NodeSet.empty] using hroom

end Frontier

/-! ## Section 5: What an export shows -/

/-- A node that an export shows: a candidate, and with a focus one that a trail of few enough
    calls joins to a function in focus. -/
def Shown (g : CallGraph) (scope : Scope) (i : Nat) : Prop :=
  match scope.focus with
  | none => Candidate g scope i
  | some focus => ∃ seed < g.nodes.length, g.isFunctionAt seed = true ∧
      focus (g.nameAt seed) = true ∧ ∃ k ≤ scope.depth, Trail g scope seed i k

theorem mem_seedsOf_iff {focus : String → Bool} {i : Nat} :
    i ∈ seedsOf g focus ↔
      i < g.nodes.length ∧ g.isFunctionAt i = true ∧ focus (g.nameAt i) = true := by
  simp [seedsOf, CallGraph.select]

theorem candidate_of_mem_seedsOf {focus : String → Bool} {i : Nat} (h : i ∈ seedsOf g focus) :
    Candidate g scope i := by
  obtain ⟨hlt, hfunction, -⟩ := mem_seedsOf_iff.mp h
  exact ⟨hlt, .inr hfunction⟩

theorem nodup_seedsOf (focus : String → Bool) : (seedsOf g focus).Nodup :=
  List.nodup_range.filter _

theorem shown_iff_within {focus : String → Bool} (hfocus : scope.focus = some focus)
    {order : List Nat} (horder : order.Perm (seedsOf g focus)) {i : Nat} :
    Shown g scope i ↔ Within g scope order scope.depth i := by
  simp only [Shown, hfocus, Within, horder.mem_iff, mem_seedsOf_iff, and_assoc]

/-- In whichever order the functions in focus are taken, the search finds what is shown. -/
theorem contains_explore_iff {focus : String → Bool} (hfocus : scope.focus = some focus)
    {order : List Nat} (horder : order.Perm (seedsOf g focus)) {i : Nat} :
    (explore g scope order).contains i = true ↔ Shown g scope i := by
  rw [shown_iff_within hfocus horder]
  have hseeds : ∀ i ∈ order, Candidate g scope i :=
    fun i hi => candidate_of_mem_seedsOf (horder.mem_iff.mp hi)
  exact (Frontier.level_start hseeds).run_iff

theorem contains_visible_iff {i : Nat} :
    (visible g scope).contains i = true ↔ Shown g scope i := by
  unfold visible
  split
  next hfocus =>
    rw [NodeSet.contains_ofPredicate, ← candidate_iff]
    simp only [Shown, hfocus]
  next focus hfocus => exact contains_explore_iff hfocus (List.Perm.refl _)

theorem Shown.candidate {i : Nat} (h : Shown g scope i) : Candidate g scope i := by
  unfold Shown at h
  split at h
  · exact h
  · obtain ⟨seed, -, -, -, k, -, htrail⟩ := h
    exact htrail.candidate

theorem mem_select_nodes_iff {i : Nat} : i ∈ (select g scope).nodes ↔ Shown g scope i := by
  have hmem : i ∈ (select g scope).nodes ↔
      i < g.nodes.length ∧ (visible g scope).contains i = true := by
    simp [select, CallGraph.select]
  rw [hmem, contains_visible_iff]
  exact and_iff_right_of_imp fun h => h.candidate.1

/-- The calls shown are those between nodes shown. -/
theorem select_calls (g : CallGraph) (scope : Scope) :
    (select g scope).calls =
      g.calls.filter fun c => c.1 ∈ (select g scope).nodes ∧ c.2 ∈ (select g scope).nodes := by
  refine List.filter_congr fun c _ => ?_
  simp [mem_select_nodes_iff, ← contains_visible_iff]

theorem select_nodes_sublist (g : CallGraph) (scope : Scope) :
    ((select g scope).nodes.map g.nameAt).Sublist g.names := by
  rw [← g.map_nameAt_range]
  exact List.filter_sublist.map g.nameAt

/-- An export shows the candidates, with a focus those near enough to it, and all calls between
    them, each as often as it is made. The search that finds them comes to an end, and does
    not depend on the order of the functions in focus. -/
theorem draw_shows_neighbourhood (g : CallGraph) (format : Format) (scope : Scope) :
    (select g scope).nodes.Pairwise (· < ·) ∧
    ((select g scope).nodes.map g.nameAt).Sublist g.names ∧
    (∀ i, i ∈ (select g scope).nodes ↔ Shown g scope i) ∧
    (select g scope).calls =
      g.calls.filter (fun c => c.1 ∈ (select g scope).nodes ∧ c.2 ∈ (select g scope).nodes) ∧
    (draw g format scope).content = (match format with
      | .dot => Dot.render g (select g scope).nodes (select g scope).calls
      | .mermaid => Mermaid.render g (select g scope).nodes (select g scope).calls) ∧
    (draw g format scope).nodeCount = (select g scope).nodes.length ∧
    (draw g format scope).callCount = (select g scope).calls.length ∧
    ∀ focus, scope.focus = some focus → ∀ order : List Nat, order.Perm (seedsOf g focus) →
      (∀ i, (explore g scope order).contains i = true ↔ Shown g scope i) ∧
      ∃ m ≤ g.nodes.length,
        ((Frontier.step g scope)^[m] (.start g.nodes.length order)).queue = [] ∧
        explore g scope order =
          ((Frontier.step g scope)^[m] (.start g.nodes.length order)).found := by
  refine ⟨List.pairwise_lt_range.filter _, select_nodes_sublist g scope,
    fun i => mem_select_nodes_iff, select_calls g scope, rfl, rfl, rfl, ?_⟩
  intro focus hfocus order horder
  refine ⟨fun i => contains_explore_iff hfocus horder, ?_⟩
  have hlt : ∀ i ∈ order, i < g.nodes.length :=
    fun i hi => (mem_seedsOf_iff.mp (horder.mem_iff.mp hi)).1
  have hpending := Frontier.pending_start (horder.nodup_iff.mpr (nodup_seedsOf focus)) hlt
  obtain ⟨m, hm, hrun⟩ :=
    Frontier.exists_run_eq g scope (Frontier.start g.nodes.length order)
  exact ⟨m, hpending ▸ hm, hrun⟩

/-- Five functions in a row, each of which calls the next. -/
def row : CallGraph :=
  CallGraph.empty.run [.function "a" "", .function "b" "", .function "c" "", .function "d" "",
    .function "e" "", .call "a" "b", .call "b" "c", .call "c" "d", .call "d" "e"]

/-- The two ends of the row and what is next to them. -/
def ends : Scope := ⟨some fun name => name == "a" || name == "e", 1, false⟩

/-- Taken from either end first, the search finds `d` but not `c` in the middle. -/
theorem draw_shows_neighbourhood_row :
    [4, 0].Perm (seedsOf row fun name => name == "a" || name == "e") ∧
      (explore row ends [4, 0]).contains 3 = true ∧ Shown row ends 3 ∧ ¬ Shown row ends 2 := by
  obtain ⟨-, -, hshown, -, -, -, -, horder⟩ := draw_shows_neighbourhood row .dot ends
  have hperm : [4, 0].Perm (seedsOf row fun name => name == "a" || name == "e") := by
    decide +kernel
  have hnodes : (select row ends).nodes = [0, 1, 3, 4] := by decide +kernel
  have h3 : Shown row ends 3 := (hshown 3).mp (by simp [hnodes])
  have h2 : ¬ Shown row ends 2 := fun h => by simpa [hnodes] using (hshown 2).mpr h
  exact ⟨hperm, ((horder _ rfl _ hperm).1 3).mpr h3, h3, h2⟩

end CallAtlas.Export
