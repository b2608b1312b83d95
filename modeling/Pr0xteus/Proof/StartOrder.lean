import Mathlib.Data.Finset.Dedup
import Mathlib.Order.Bounds.Basic
import Pr0xteus.ServiceManager

/-!
# The groups the services start in

The counter of a service is at every moment the number of its dependencies that are in no group yet.
So a round of `topoSort` takes exactly the services whose dependencies are all grouped, and what is
left when no such service remains goes round in a cycle.
-/

namespace Pr0xteus.ServiceManager

open Layering

variable {a x : String} {done queue : List String} {i : Nat} {layers : List (List String)}
  {svc : Service}

/-- `a` names `b` among its dependencies, and `b` is in the process. -/
def Services.DependsOn (services : Services) (a b : String) : Prop :=
  b ∈ services.dependencies a ∧ b ∈ services.map

def Services.Cyclic (services : Services) : Prop :=
  ∃ a, Relation.TransGen services.DependsOn a a

variable {services : Services}

theorem Services.DependsOn.mem_left {a b : String} (h : services.DependsOn a b) :
    a ∈ services.map := by
  have hdependency := h.1
  unfold Services.dependencies at hdependency
  cases hlookup : services.map.lookup a with
  | none => simp [hlookup] at hdependency
  | some svc => exact AList.lookup_isSome.mp (by rw [hlookup]; rfl)

theorem Services.dependencies_eq_nil (hx : x ∉ services.map) : services.dependencies x = [] := by
  rw [Services.dependencies, AList.lookup_eq_none.mpr hx]
  rfl

/-! ## The counters -/

section Graph

variable {name : String}

theorem inDegree_foldl_depend (l : List String) (g : DepGraph) (x : String) :
    (l.foldl (DepGraph.depend services name) g).inDegree x =
      g.inDegree x + if x = name then (l.countP (· ∈ services.map) : Int) else 0 := by
  induction l generalizing g with
  | nil => simp
  | cons depName l ih =>
      rw [List.foldl_cons, ih, DepGraph.depend, List.countP_cons]
      by_cases hpresent : depName ∈ services.map
      · by_cases hx : x = name
        · subst hx
          simp [hpresent]
          omega
        · simp [hpresent, hx, Function.update_of_ne]
      · simp [hpresent]

theorem count_foldl_depend (l : List String) (g : DepGraph) (a b : String) :
    ((l.foldl (DepGraph.depend services name) g).dependents b).count a =
      (g.dependents b).count a + if a = name ∧ b ∈ services.map then l.count b else 0 := by
  induction l generalizing g with
  | nil => simp
  | cons depName l ih =>
      rw [List.foldl_cons, ih, DepGraph.depend, List.count_cons]
      by_cases hpresent : depName ∈ services.map
      · by_cases hb : b = depName
        · subst hb
          by_cases ha : a = name
          · simp [hpresent, ha, List.count_append]
            omega
          · simp [hpresent, ha, List.count_append, Ne.symm ha]
        · simp [hpresent, Function.update_of_ne hb, Ne.symm hb]
      · have hne : a = name ∧ b ∈ services.map → depName ≠ b :=
          fun h heq => hpresent (heq ▸ h.2)
        simp only [hpresent, if_false]
        split
        · next h => simp [hne h]
        · rfl

variable {ranged : List String}

theorem count_ranged_mul (hranged : ranged.Perm services.names) (x : String) (p : String → Bool) :
    ranged.count x * (services.dependencies x).countP p = (services.dependencies x).countP p := by
  rw [hranged.count_eq]
  by_cases hx : x ∈ services.map
  · have hone : services.names.count x = 1 :=
      List.count_eq_one_of_mem services.map.keys_nodup hx
    rw [hone, Nat.one_mul]
  · rw [Services.dependencies_eq_nil hx, List.countP_nil, Nat.mul_zero]

theorem inDegree_buildDepGraph (hranged : ranged.Perm services.names) (x : String) :
    (buildDepGraph services ranged).inDegree x =
      (services.dependencies x).countP (· ∈ services.map) := by
  have hgeneral : ∀ (l : List String) (g : DepGraph),
      (l.foldl (fun g name =>
        (services.dependencies name).foldl (DepGraph.depend services name) g) g).inDegree x =
        g.inDegree x + l.count x * (services.dependencies x).countP (· ∈ services.map) := by
    intro l
    induction l with
    | nil => simp
    | cons name l ih =>
        intro g
        rw [List.foldl_cons, ih, inDegree_foldl_depend, List.count_cons]
        by_cases hname : x = name
        · subst hname
          simp [Int.add_mul]
          omega
        · simp [hname, Ne.symm hname]
  rw [buildDepGraph, hgeneral, ← Int.natCast_mul, count_ranged_mul hranged]
  exact Int.zero_add _

theorem count_dependents_buildDepGraph (hranged : ranged.Perm services.names) {a b : String}
    (hb : b ∈ services.map) :
    ((buildDepGraph services ranged).dependents b).count a =
      (services.dependencies a).count b := by
  have hgeneral : ∀ (l : List String) (g : DepGraph),
      ((l.foldl (fun g name =>
        (services.dependencies name).foldl (DepGraph.depend services name) g) g).dependents b).count
          a = (g.dependents b).count a + l.count a * (services.dependencies a).count b := by
    intro l
    induction l with
    | nil => simp
    | cons name l ih =>
        intro g
        rw [List.foldl_cons, ih, count_foldl_depend, List.count_cons]
        by_cases hname : a = name
        · subst hname
          simp [hb, Nat.add_mul]
          omega
        · simp [hname, Ne.symm hname]
  rw [buildDepGraph, hgeneral]
  exact (Nat.zero_add _).trans (count_ranged_mul hranged a (· == b))

end Graph

/-! ## One round -/

/-- How many of the dependencies of `x` are not among `done`. -/
def left (services : Services) (done : List String) (x : String) : Nat :=
  (services.dependencies x).countP fun b => b ∈ services.map ∧ b ∉ done

/-- `x` is not done, and all it depends on is. -/
def Free (services : Services) (done : List String) (x : String) : Prop :=
  x ∈ services.map ∧ x ∉ done ∧ left services done x = 0

theorem left_eq_zero_iff : left services done x = 0 ↔ ∀ b, services.DependsOn x b → b ∈ done := by
  simp only [left, List.countP_eq_zero, decide_eq_true_eq, not_and, not_not]
  exact ⟨fun h b hb => h b hb.1 hb.2, fun h b hb hpresent => h b ⟨hb, hpresent⟩⟩

theorem left_eq_zero_mono {done done' : List String} (h : done ⊆ done')
    (hx : left services done x = 0) : left services done' x = 0 :=
  left_eq_zero_iff.mpr fun b hb => h (left_eq_zero_iff.mp hx b hb)

theorem countP_mem_cons {n : String} (hn : n ∉ queue) (l : List String) :
    l.countP (· ∈ n :: queue) = l.count n + l.countP (· ∈ queue) := by
  induction l with
  | nil => rfl
  | cons b l ih =>
      rw [List.countP_cons, List.countP_cons, List.count_cons, ih]
      by_cases hb : b = n
      · subst hb
        simp [hn]
        omega
      · simp [hb]
        omega

/-- Each of the queue counts once for every time it is named. -/
theorem sum_count_eq_countP (hnodup : queue.Nodup) (l : List String) :
    (queue.map l.count).sum = l.countP (· ∈ queue) := by
  induction queue with
  | nil => simp
  | cons n queue ih =>
      obtain ⟨hn, hnodup⟩ := List.nodup_cons.mp hnodup
      rw [List.map_cons, List.sum_cons, ih hnodup, countP_mem_cons hn]

theorem left_append (hqueue : ∀ x ∈ queue, x ∈ services.map) (hdone : ∀ x ∈ queue, x ∉ done)
    (x : String) :
    left services (done ++ queue) x + (services.dependencies x).countP (· ∈ queue) =
      left services done x := by
  unfold left
  induction services.dependencies x with
  | nil => rfl
  | cons b l ih =>
      rw [List.countP_cons, List.countP_cons, List.countP_cons, ← ih]
      by_cases hb : b ∈ queue
      · simp [hb, hqueue b hb, hdone b hb]
        omega
      · simp [hb]
        omega

/-- Where the loop stands: each group so far and the queue hold exactly the services that were free
when they were taken, and the counters say what is left. -/
structure Rounds (services : Services) (layers : List (List String)) (queue : List String)
    (inDegree : String → Int) : Prop where
  mem_iff : ∀ i l, (layers ++ [queue])[i]? = some l →
    ∀ x, x ∈ l ↔ Free services ((layers ++ [queue]).take i).flatten x
  nodup : (layers ++ [queue]).flatten.Nodup
  ne_nil : ∀ l ∈ layers, l ≠ []
  counts : ∀ x, inDegree x = left services layers.flatten x

namespace Rounds

variable {layers : List (List String)} {queue : List String} {inDegree : String → Int}

theorem mem_queue (h : Rounds services layers queue inDegree) :
    x ∈ queue ↔ Free services layers.flatten x := by
  have hlast := h.mem_iff layers.length queue (by simp) x
  simpa using hlast

theorem mem_layer (h : Rounds services layers queue inDegree) {l : List String}
    (hl : layers[i]? = some l) : x ∈ l ↔ Free services (layers.take i).flatten x := by
  have hi : i < layers.length := (List.getElem?_eq_some_iff.mp hl).1
  have hmem := h.mem_iff i l (by rw [List.getElem?_append_left hi, hl]) x
  rwa [List.take_append_of_le_length hi.le] at hmem

theorem present (h : Rounds services layers queue inDegree) :
    ∀ x ∈ layers.flatten, x ∈ services.map := by
  intro x hx
  obtain ⟨l, hl, hx⟩ := List.mem_flatten.mp hx
  obtain ⟨i, hi⟩ := List.getElem?_of_mem hl
  exact ((h.mem_layer hi).mp hx).1

theorem nodup_layers (h : Rounds services layers queue inDegree) : layers.flatten.Nodup := by
  have hall := h.nodup
  rw [List.flatten_append] at hall
  exact (List.nodup_append.mp hall).1

theorem length_le (h : Rounds services layers queue inDegree) :
    layers.flatten.length ≤ services.names.length :=
  (h.nodup_layers.subperm h.present).length_le

theorem left_eq_zero (h : Rounds services layers queue inDegree) (hx : x ∈ layers.flatten) :
    left services layers.flatten x = 0 := by
  obtain ⟨l, hl, hx⟩ := List.mem_flatten.mp hx
  obtain ⟨i, hi⟩ := List.getElem?_of_mem hl
  have htake : layers.take i <+: layers := List.take_prefix i layers
  exact left_eq_zero_mono htake.flatten.subset ((h.mem_layer hi).mp hx).2.2

section Step

variable {dependents : String → List String}

/-- The counters and the queue after the round. -/
def next (dependents : String → List String) (queue : List String) (inDegree : String → Int) :
    (String → Int) × List String :=
  queue.foldl (fun counters name => (dependents name).foldl tick counters) (inDegree, [])

theorem next_eq : next dependents queue inDegree =
    (queue.flatMap dependents).foldl tick (inDegree, []) := by
  rw [next, List.foldl_flatMap]

variable (hdependents : ∀ a b, b ∈ services.map →
  (dependents b).count a = (services.dependencies a).count b)

include hdependents in
/-- The ticks that the queue gives to `x`. -/
theorem count_dependents (h : Rounds services layers queue inDegree) (x : String) :
    (queue.flatMap dependents).count x = (services.dependencies x).countP (· ∈ queue) := by
  have hnodup : queue.Nodup := by
    have hall := h.nodup
    rw [List.flatten_append] at hall
    simpa using (List.nodup_append.mp hall).2.1
  rw [List.count_flatMap, ← sum_count_eq_countP hnodup]
  congr 1
  exact List.map_congr_left fun n hn => hdependents x n (h.mem_queue.mp hn).1

include hdependents in
theorem next_fst (h : Rounds services layers queue inDegree) (x : String) :
    (next dependents queue inDegree).1 x = left services (layers ++ [queue]).flatten x := by
  have happend := left_append (fun y hy => (h.mem_queue.mp hy).1)
    (fun y hy => (h.mem_queue.mp hy).2.1) x
  rw [next_eq, foldl_tick_fst, count_dependents hdependents h, h.counts, ← happend]
  simp

include hdependents in
theorem mem_next (h : Rounds services layers queue inDegree) (x : String) :
    x ∈ (next dependents queue inDegree).2 ↔ Free services (layers ++ [queue]).flatten x := by
  have happend := left_append (fun y hy => (h.mem_queue.mp hy).1)
    (fun y hy => (h.mem_queue.mp hy).2.1) x
  have hflatten : (layers ++ [queue]).flatten = layers.flatten ++ queue := by simp
  rw [next_eq, mem_foldl_tick_snd, count_dependents hdependents h, h.counts, hflatten]
  constructor
  · rintro (hx | ⟨hpos, hle⟩)
    · simp at hx
    · have hleft : left services layers.flatten x ≠ 0 := by omega
      have hpresent : x ∈ services.map := by
        by_contra hx
        rw [left, Services.dependencies_eq_nil hx] at hleft
        exact hleft rfl
      refine ⟨hpresent, fun hx => ?_, by omega⟩
      rcases List.mem_append.mp hx with hx | hx
      · exact hleft (h.left_eq_zero hx)
      · exact hleft (h.mem_queue.mp hx).2.2
  · rintro ⟨hpresent, hx, hzero⟩
    rw [List.mem_append, not_or] at hx
    have hleft : left services layers.flatten x ≠ 0 :=
      fun hleft => hx.2 (h.mem_queue.mpr ⟨hpresent, hx.1, hleft⟩)
    exact .inr ⟨by omega, by omega⟩

include hdependents in
theorem step (h : Rounds services layers queue inDegree) (hqueue : queue ≠ []) :
    Rounds services (layers ++ [queue]) (next dependents queue inDegree).2
      (next dependents queue inDegree).1 where
  mem_iff := by
    intro i l hl x
    rcases Nat.lt_or_ge i (layers ++ [queue]).length with hi | hi
    · rw [List.getElem?_append_left hi] at hl
      rw [List.take_append_of_le_length hi.le]
      exact h.mem_iff i l hl x
    · obtain rfl : i = (layers ++ [queue]).length := by
        have hlt := (List.getElem?_eq_some_iff.mp hl).1
        rw [List.length_append, List.length_singleton] at hlt
        omega
      rw [List.getElem?_concat_length, Option.some.injEq] at hl
      subst hl
      rw [List.take_left']
      · exact h.mem_next hdependents x
      · rfl
  nodup := by
    rw [List.flatten_append, List.nodup_append]
    refine ⟨h.nodup, ?_, ?_⟩
    · rw [List.flatten_singleton, next_eq]
      exact nodup_foldl_tick_snd List.nodup_nil (by simp)
    · rintro a ha b hb rfl
      rw [List.flatten_singleton] at hb
      exact ((h.mem_next hdependents a).mp hb).2.1 ha
  ne_nil := by
    intro l hl
    rcases List.mem_append.mp hl with hl | hl
    · exact h.ne_nil l hl
    · exact List.mem_singleton.mp hl ▸ hqueue
  counts := h.next_fst hdependents

end Step

/-! ## The layers -/

/-- The service is in the layer. -/
def InLayer (layers : List (List String)) (i : Nat) (x : String) : Prop :=
  ∃ l, layers[i]? = some l ∧ x ∈ l

theorem exists_inLayer (hx : x ∈ layers.flatten) : ∃ i, InLayer layers i x := by
  obtain ⟨l, hl, hx⟩ := List.mem_flatten.mp hx
  obtain ⟨i, hi⟩ := List.getElem?_of_mem hl
  exact ⟨i, l, hi, hx⟩

theorem mem_flatten_take : x ∈ (layers.take i).flatten ↔ ∃ j < i, InLayer layers j x := by
  constructor
  · intro hx
    obtain ⟨j, l, hl, hx⟩ := exists_inLayer hx
    rw [List.getElem?_take] at hl
    split at hl
    · next hj => exact ⟨j, hj, l, hl, hx⟩
    · cases hl
  · rintro ⟨j, hj, l, hl, hx⟩
    refine List.mem_flatten.mpr ⟨l, List.mem_of_getElem? (i := j) ?_, hx⟩
    rw [List.getElem?_take, if_pos hj, hl]

theorem isLayering (h : Rounds services layers queue inDegree) :
    IsLayering services.DependsOn (InLayer layers) where
  earlier := by
    rintro i a b ⟨l, hl, ha⟩ hab
    have hfree := (h.mem_layer hl).mp ha
    exact mem_flatten_take.mp (left_eq_zero_iff.mp hfree.2.2 b hab)
  needed := by
    rintro i a ⟨l, hl, ha⟩
    obtain ⟨hpresent, hnot, hzero⟩ := (h.mem_layer hl).mp ha
    have hi : i < layers.length := by
      have hlt := (List.getElem?_eq_some_iff.mp hl).1
      omega
    -- `a` was not free one round earlier, so something it depends on came in that round
    have hbefore : left services (layers.take i).flatten a ≠ 0 := by
      intro hleft
      have hin : a ∈ layers[i] := by
        refine (h.mem_layer (List.getElem?_eq_getElem hi)).mpr ⟨hpresent, fun ha => hnot ?_, hleft⟩
        obtain ⟨j, hj, hin⟩ := mem_flatten_take.mp ha
        exact mem_flatten_take.mpr ⟨j, by omega, hin⟩
      exact hnot (mem_flatten_take.mpr ⟨i, by omega, layers[i], List.getElem?_eq_getElem hi, hin⟩)
    rw [Ne, left_eq_zero_iff] at hbefore
    push Not at hbefore
    obtain ⟨b, hab, hb⟩ := hbefore
    obtain ⟨j, hj, hin⟩ := mem_flatten_take.mp (left_eq_zero_iff.mp hzero b hab)
    obtain rfl : j = i := by
      by_contra hne
      exact hb (mem_flatten_take.mpr ⟨j, by omega, hin⟩)
    exact ⟨b, hab, hin⟩

/-- With nothing free any more, either every service is in a layer or the rest goes round. -/
theorem mem_of_not_cyclic (h : Rounds services layers [] inDegree) (hcyclic : ¬services.Cyclic)
    (hx : x ∈ services.map) : x ∈ layers.flatten := by
  by_contra hnot
  let rest : Finset String := services.names.toFinset.filter (· ∉ layers.flatten)
  have hrest : ∀ a, a ∈ rest ↔ a ∈ services.map ∧ a ∉ layers.flatten := by
    intro a
    simp [rest, Services.names, AList.mem_keys]
  have hgoes : ∀ a ∈ rest, ∃ b ∈ rest, services.DependsOn a b := by
    intro a ha
    obtain ⟨hpresent, ha⟩ := (hrest a).mp ha
    have hleft : left services layers.flatten a ≠ 0 :=
      fun hleft => List.not_mem_nil (h.mem_queue.mpr ⟨hpresent, ha, hleft⟩)
    rw [Ne, left_eq_zero_iff] at hleft
    push Not at hleft
    obtain ⟨b, hab, hb⟩ := hleft
    exact ⟨b, (hrest b).mpr ⟨hab.2, hb⟩, hab⟩
  obtain ⟨a, -, hcycle⟩ := exists_cycle ⟨x, (hrest x).mpr ⟨hx, hnot⟩⟩ hgoes
  exact hcyclic ⟨a, hcycle⟩

theorem not_mem_of_cycle (h : Rounds services layers queue inDegree)
    (hcycle : Relation.TransGen services.DependsOn a a) : a ∉ layers.flatten := by
  intro ha
  obtain ⟨i, hin⟩ := exists_inLayer ha
  exact h.isLayering.not_cyclic hin hcycle

theorem perm_of_length_eq (h : Rounds services layers queue inDegree)
    (hlength : layers.flatten.length = services.names.length) :
    layers.flatten.Perm services.names :=
  (h.nodup_layers.subperm h.present).perm_of_length_le hlength.ge

/-! ## The whole loop -/

section Loop

variable {dependents : String → List String}
variable (hdependents : ∀ a b, b ∈ services.map →
  (dependents b).count a = (services.dependencies a).count b)

include hdependents in
/-- Every round takes at least one service, so the loop ends. -/
theorem topoLoop_eq (h : Rounds services layers queue inDegree) {fuel : Nat}
    (hfuel : services.names.length < layers.flatten.length + fuel) :
    ∃ layers' inDegree', Rounds services layers' [] inDegree' ∧
      topoLoop services dependents fuel inDegree queue
        (layers.map (·.filterMap services.map.lookup)) layers.flatten.length =
          some (layers'.map (·.filterMap services.map.lookup), layers'.flatten.length) := by
  induction fuel generalizing layers queue inDegree with
  | zero =>
      have hle := h.length_le
      omega
  | succ fuel ih =>
      by_cases hqueue : queue = []
      · subst hqueue
        exact ⟨layers, inDegree, h, by simp [topoLoop]⟩
      · have hpos : 0 < queue.length := List.length_pos_of_ne_nil hqueue
        have hlength : (layers ++ [queue]).flatten.length =
            layers.flatten.length + queue.length := by simp
        obtain ⟨layers', inDegree', hlast, hloop⟩ :=
          ih (h.step hdependents hqueue) (by omega)
        refine ⟨layers', inDegree', hlast, ?_⟩
        rw [topoLoop, if_neg hqueue, ← hloop, hlength, List.map_append]
        rfl

end Loop

end Rounds

section Order

variable {ranged ranged' : List String}

theorem rounds_start (hranged : ranged.Perm services.names) (hranged' : ranged'.Perm services.names) :
    Rounds services [] (ranged'.filter fun name => (buildDepGraph services ranged).inDegree name = 0)
      (buildDepGraph services ranged).inDegree where
  mem_iff := by
    intro i l hl x
    have hi : i = 0 := by
      have hlt := (List.getElem?_eq_some_iff.mp hl).1
      simp at hlt
      exact hlt
    subst hi
    simp only [List.nil_append, List.getElem?_cons_zero, Option.some.injEq] at hl
    subst hl
    have hx : x ∈ ranged' ↔ x ∈ services.map := hranged'.mem_iff
    simp [Free, left, inDegree_buildDepGraph hranged, hx]
  nodup := by
    rw [List.nil_append, List.flatten_singleton]
    exact (hranged'.nodup_iff.mpr services.map.keys_nodup).filter _
  ne_nil := by simp
  counts := by
    intro x
    rw [inDegree_buildDepGraph hranged]
    simp [left]

theorem resolveOrder_eq (hranged : ranged.Perm services.names)
    (hranged' : ranged'.Perm services.names) :
    ∃ layers inDegree, Rounds services layers [] inDegree ∧
      resolveOrder services ranged ranged' =
        some (if layers.flatten.length ≠ services.names.length then
            .error (.sentinel .cyclicDependency)
          else .ok (layers.map (·.filterMap services.map.lookup))) := by
  have hfuel : services.names.length <
      ([] : List (List String)).flatten.length + (services.names.length + 1) := by simp
  obtain ⟨layers, inDegree, hlast, hloop⟩ :=
    (rounds_start hranged hranged').topoLoop_eq
      (fun a b hb => count_dependents_buildDepGraph hranged hb) hfuel
  refine ⟨layers, inDegree, hlast, ?_⟩
  rw [resolveOrder, topoSort]
  simp only [List.map_nil, List.flatten_nil, List.length_nil] at hloop
  rw [hloop]
  rfl

/-- What the groups are for. -/
structure IsStartOrder (services : Services) (groups : List Group) : Prop where
  once : (groups.flatten.map Service.name).Perm services.names
  own : ∀ svc ∈ groups.flatten, services.map.lookup svc.name = some svc
  nonempty : ∀ g ∈ groups, g ≠ []
  later : ∀ (i : Nat) (g : Group), groups[i]? = some g → ∀ svc ∈ g, ∀ depName ∈ svc.dependencies,
    depName ∈ services.map →
      ∃ j < i, ∃ g' : Group, groups[j]? = some g' ∧ ∃ dep ∈ g', dep.name = depName
  index : ∀ (i : Nat) (g : Group), groups[i]? = some g → ∀ svc ∈ g,
    IsGreatest (chainLengths services.DependsOn svc.name) i

/-- A present name and its service. -/
theorem Services.exists_lookup (hx : x ∈ services.map) :
    ∃ svc, services.map.lookup x = some svc ∧ svc.name = x := by
  obtain ⟨svc, hsvc⟩ := Option.isSome_iff_exists.mp (AList.lookup_isSome.mpr hx)
  exact ⟨svc, hsvc, services.named x svc hsvc⟩

theorem Services.dependencies_of_lookup (hsvc : services.map.lookup x = some svc) :
    services.dependencies x = svc.dependencies := by
  rw [Services.dependencies, hsvc]
  rfl

theorem map_name_filterMap_lookup {l : List String} (hl : ∀ x ∈ l, x ∈ services.map) :
    (l.filterMap services.map.lookup).map Service.name = l := by
  induction l with
  | nil => rfl
  | cons x l ih =>
      obtain ⟨svc, hsvc, hname⟩ := Services.exists_lookup (hl x List.mem_cons_self)
      have hrest := ih fun y hy => hl y (List.mem_cons_of_mem x hy)
      simp only [List.filterMap_cons, hsvc, List.map_cons, hname, hrest]

theorem Rounds.isStartOrder {inDegree : String → Int} (h : Rounds services layers [] inDegree)
    (hlength : layers.flatten.length = services.names.length) :
    IsStartOrder services (layers.map (·.filterMap services.map.lookup)) := by
  have hflatten : (layers.map (·.filterMap services.map.lookup)).flatten =
      layers.flatten.filterMap services.map.lookup := List.filterMap_flatten.symm
  have hnamed : ∀ svc ∈ layers.flatten.filterMap services.map.lookup,
      services.map.lookup svc.name = some svc := by
    intro svc hsvc
    obtain ⟨x, -, hlookup⟩ := List.mem_filterMap.mp hsvc
    rw [services.named x svc hlookup, hlookup]
  -- a service of a group, as a name of its layer
  have hlayer : ∀ (i : Nat) (g : Group), (layers.map (·.filterMap services.map.lookup))[i]? = some g →
      ∀ svc ∈ g, Rounds.InLayer layers i svc.name ∧
        services.dependencies svc.name = svc.dependencies := by
    intro i g hg svc hsvc
    rw [List.getElem?_map, Option.map_eq_some_iff] at hg
    obtain ⟨l, hl, rfl⟩ := hg
    obtain ⟨x, hx, hlookup⟩ := List.mem_filterMap.mp hsvc
    rw [services.named x svc hlookup]
    exact ⟨⟨l, hl, hx⟩, Services.dependencies_of_lookup hlookup⟩
  have hgroup : ∀ j x, Rounds.InLayer layers j x → x ∈ services.map →
      ∃ g' : Group, (layers.map (·.filterMap services.map.lookup))[j]? = some g' ∧
        ∃ dep ∈ g', dep.name = x := by
    rintro j x ⟨l, hl, hx⟩ hpresent
    obtain ⟨dep, hlookup, hname⟩ := Services.exists_lookup hpresent
    refine ⟨l.filterMap services.map.lookup, ?_, dep, ?_, hname⟩
    · rw [List.getElem?_map, hl]
      rfl
    · exact List.mem_filterMap.mpr ⟨x, hx, hlookup⟩
  constructor
  case once =>
    rw [hflatten, map_name_filterMap_lookup h.present]
    exact h.perm_of_length_eq hlength
  case own =>
    rw [hflatten]
    exact hnamed
  case nonempty =>
    intro g hg
    obtain ⟨l, hl, rfl⟩ := List.mem_map.mp hg
    obtain ⟨x, hx⟩ := List.exists_mem_of_ne_nil l (h.ne_nil l hl)
    obtain ⟨svc, hsvc, -⟩ := Services.exists_lookup (h.present x (List.mem_flatten.mpr ⟨l, hl, hx⟩))
    exact List.ne_nil_of_mem (List.mem_filterMap.mpr ⟨x, hx, hsvc⟩)
  case later =>
    intro i g hg svc hsvc depName hdep hpresent
    obtain ⟨hin, hdeps⟩ := hlayer i g hg svc hsvc
    obtain ⟨j, hj, hbelow⟩ :=
      h.isLayering.earlier i svc.name depName hin ⟨hdeps ▸ hdep, hpresent⟩
    exact ⟨j, hj, hgroup j depName hbelow hpresent⟩
  case index =>
    intro i g hg svc hsvc
    exact h.isLayering.isGreatest (hlayer i g hg svc hsvc).1

theorem isStartOrder_of_resolveOrder {groups : List Group} (hranged : ranged.Perm services.names)
    (hranged' : ranged'.Perm services.names)
    (h : resolveOrder services ranged ranged' = some (.ok groups)) :
    IsStartOrder services groups := by
  obtain ⟨layers, inDegree, hlast, heq⟩ := resolveOrder_eq hranged hranged'
  rw [heq, Option.some.injEq] at h
  split at h
  · cases h
  · next hlength =>
      cases h
      exact hlast.isStartOrder (not_not.mp hlength)

namespace IsStartOrder

variable {groups groups' : List Group}

theorem exists_mem (h : IsStartOrder services groups)
    (hsvc : services.map.lookup svc.name = some svc) :
    ∃ (i : Nat) (g : Group), groups[i]? = some g ∧ svc ∈ g := by
  have hname : svc.name ∈ groups.flatten.map Service.name :=
    h.once.mem_iff.mpr (AList.lookup_isSome.mp (by rw [hsvc]; rfl))
  obtain ⟨svc', hsvc', heq⟩ := List.mem_map.mp hname
  have hown := h.own svc' hsvc'
  rw [heq, hsvc, Option.some.injEq] at hown
  subst hown
  obtain ⟨g, hg, hin⟩ := List.mem_flatten.mp hsvc'
  obtain ⟨i, hi⟩ := List.getElem?_of_mem hg
  exact ⟨i, g, hi, hin⟩

/-- A service comes in a later group than all that it depends on, directly or through others. -/
theorem lt_of_transGen (h : IsStartOrder services groups) {i j : Nat} {g g' : Group}
    (hg : groups[i]? = some g) (hg' : groups[j]? = some g') {svc dep : Service} (hsvc : svc ∈ g)
    (hdep : dep ∈ g') (hdepends : Relation.TransGen services.DependsOn svc.name dep.name) :
    j < i := by
  obtain ⟨m, hm, hlt⟩ := exists_longer hdepends (h.index j g' hg' dep hdep).1
  exact Nat.lt_of_lt_of_le hlt ((h.index i g hg svc hsvc).2 hm)

theorem exists_subset (h : IsStartOrder services groups) (h' : IsStartOrder services groups')
    {g : Group} (hg : groups[i]? = some g) : ∃ g' : Group, groups'[i]? = some g' ∧ g ⊆ g' := by
  -- the index of a service is the length of its longest chain, in either order
  have hsame : ∀ svc ∈ g, ∃ g' : Group, groups'[i]? = some g' ∧ svc ∈ g' := by
    intro svc hsvc
    have hown := h.own svc (List.mem_flatten.mpr ⟨g, List.mem_of_getElem? hg, hsvc⟩)
    obtain ⟨j, g', hg', hsvc'⟩ := h'.exists_mem hown
    have hij : j = i := (h'.index j g' hg' svc hsvc').unique (h.index i g hg svc hsvc)
    exact ⟨g', hij ▸ hg', hsvc'⟩
  obtain ⟨svc, hsvc⟩ := List.exists_mem_of_ne_nil g (h.nonempty g (List.mem_of_getElem? hg))
  obtain ⟨g', hg', -⟩ := hsame svc hsvc
  refine ⟨g', hg', fun svc hsvc => ?_⟩
  obtain ⟨g'', hg'', hin⟩ := hsame svc hsvc
  rw [hg', Option.some.injEq] at hg''
  exact hg'' ▸ hin

theorem map_toFinset_eq (h : IsStartOrder services groups) (h' : IsStartOrder services groups') :
    groups.map List.toFinset = groups'.map List.toFinset := by
  refine List.ext_getElem? fun i => ?_
  rw [List.getElem?_map, List.getElem?_map]
  cases hg : groups[i]? with
  | none =>
      cases hg' : groups'[i]? with
      | none => rfl
      | some g' =>
          obtain ⟨g, hsome, -⟩ := h'.exists_subset h hg'
          rw [hg] at hsome
          cases hsome
  | some g =>
      obtain ⟨g', hg', hsub⟩ := h.exists_subset h' hg
      obtain ⟨g'', hg'', hsub'⟩ := h'.exists_subset h hg'
      rw [hg, Option.some.injEq] at hg''
      subst hg''
      rw [hg', Option.map_some, Option.map_some, Option.some.injEq]
      ext svc
      rw [List.mem_toFinset, List.mem_toFinset]
      exact ⟨fun hin => hsub hin, fun hin => hsub' hin⟩

end IsStartOrder

theorem resolveOrder_eq_cyclic_iff (hranged : ranged.Perm services.names)
    (hranged' : ranged'.Perm services.names) :
    resolveOrder services ranged ranged' = some (.error (.sentinel .cyclicDependency)) ↔
      services.Cyclic := by
  obtain ⟨layers, inDegree, hlast, heq⟩ := resolveOrder_eq hranged hranged'
  rw [heq, Option.some.injEq]
  constructor
  · intro herror
    by_contra hcyclic
    have hperm : layers.flatten.Perm services.names :=
      (List.perm_ext_iff_of_nodup hlast.nodup_layers services.map.keys_nodup).mpr fun x =>
        ⟨hlast.present x, hlast.mem_of_not_cyclic hcyclic⟩
    rw [if_neg (not_not.mpr hperm.length_eq)] at herror
    cases herror
  · rintro ⟨a, hcycle⟩
    have hlength : layers.flatten.length ≠ services.names.length := by
      intro hlength
      have ha : a ∈ services.names := by
        obtain ⟨b, hab, -⟩ := Relation.TransGen.head'_iff.mp hcycle
        exact hab.mem_left
      exact hlast.not_mem_of_cycle hcycle ((hlast.perm_of_length_eq hlength).mem_iff.mpr ha)
    rw [if_pos hlength]

/-- **The groups.** Whatever orders the maps are ranged in, the answer is the cycle error exactly when
the services depend on one another in a circle; else every service is in the group that its longest
chain of dependencies says. -/
theorem resolveOrder_correct (hranged : ranged.Perm services.names)
    (hranged' : ranged'.Perm services.names) :
    (resolveOrder services ranged ranged' = some (.error (.sentinel .cyclicDependency)) ↔
      services.Cyclic) ∧
    (¬services.Cyclic → ∃ groups, resolveOrder services ranged ranged' = some (.ok groups) ∧
      IsStartOrder services groups ∧
      ∀ other other', other.Perm services.names → other'.Perm services.names →
        ∃ groups', resolveOrder services other other' = some (.ok groups') ∧
          groups'.map List.toFinset = groups.map List.toFinset) := by
  refine ⟨resolveOrder_eq_cyclic_iff hranged hranged', fun hcyclic => ?_⟩
  have hok : ∀ l l', l.Perm services.names → l'.Perm services.names →
      ∃ groups, resolveOrder services l l' = some (.ok groups) ∧ IsStartOrder services groups := by
    intro l l' hl hl'
    have hnot := (resolveOrder_eq_cyclic_iff hl hl').not.mpr hcyclic
    obtain ⟨layers, inDegree, hlast, heq⟩ := resolveOrder_eq hl hl'
    by_cases hlength : layers.flatten.length = services.names.length
    · refine ⟨layers.map (·.filterMap services.map.lookup), ?_, hlast.isStartOrder hlength⟩
      rw [heq, if_neg (not_not.mpr hlength)]
    · rw [heq, if_pos hlength] at hnot
      exact absurd rfl hnot
  obtain ⟨groups, hgroups, horder⟩ := hok ranged ranged' hranged hranged'
  refine ⟨groups, hgroups, horder, fun other other' hother hother' => ?_⟩
  obtain ⟨groups', hgroups', horder'⟩ := hok other other' hother hother'
  exact ⟨groups', hgroups', horder'.map_toFinset_eq horder⟩

/-- Three services; "web" names one of them twice and one that is not there. -/
def threeServices : Services where
  map := ⟨[⟨"web", { name := "web", dependencies := ["db", "cache", "db", "gone"] }⟩,
    ⟨"cache", { name := "cache", dependencies := ["db"] }⟩, ⟨"db", { name := "db" }⟩],
    (by decide : ["web", "cache", "db"].Nodup)⟩
  named := by
    intro name svc hlookup
    have hmem := AList.mem_lookup_iff.mp hlookup
    simp only [List.mem_cons, List.not_mem_nil, or_false, Sigma.mk.injEq] at hmem
    rcases hmem with ⟨rfl, heq⟩ | ⟨rfl, heq⟩ | ⟨rfl, heq⟩ <;> cases heq <;> rfl

/-- The theorem at the three services, ranged in two orders. -/
theorem resolveOrder_correct_threeServices :
    (["db", "web", "cache"].Perm threeServices.names ∧
      ["cache", "db", "web"].Perm threeServices.names) ∧
    (resolveOrder threeServices ["db", "web", "cache"] ["cache", "db", "web"] =
      some (.error (.sentinel .cyclicDependency)) ↔ threeServices.Cyclic) ∧
    (¬threeServices.Cyclic →
      ∃ groups, resolveOrder threeServices ["db", "web", "cache"] ["cache", "db", "web"] =
        some (.ok groups) ∧ IsStartOrder threeServices groups ∧
        ∀ other other', other.Perm threeServices.names → other'.Perm threeServices.names →
          ∃ groups', resolveOrder threeServices other other' = some (.ok groups') ∧
            groups'.map List.toFinset = groups.map List.toFinset) :=
  ⟨⟨by decide, by decide⟩, resolveOrder_correct (by decide) (by decide)⟩

example : (resolveOrder threeServices ["db", "web", "cache"] ["cache", "db", "web"]).map
    (·.toOption.map (·.map (·.map Service.name))) = some (some [["db"], ["cache"], ["web"]]) := by
  decide

end Order

end Pr0xteus.ServiceManager
