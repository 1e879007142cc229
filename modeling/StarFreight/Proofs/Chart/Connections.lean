import Mathlib.Algebra.BigOperators.Group.Finset.Basic
import Mathlib.Data.Set.Card
import Mathlib.Data.Sym.Sym2
import StarFreight.Proofs.Chart.Loading
/-!
# Chart — connections

Whether two systems are connected is found by halving, which is right on numbers
that ascend (`searchBetween_eq_true_iff`); the neighbours of a graph do, however the
arcs were given (`Graph.connected_ofArcs`). Arcs are counted once each, and by where
they start that is the sum of all degrees (`Graph.sum_degree_ofArcs`,
`Graph.arcCount_ofArcs`). A gate makes an arc in either direction and none that stays,
so there are two arcs to every pair of systems that are connected, and half their
number counts the pairs (`Graph.sum_degree_ofGates`, `Graph.encard_pairs_ofGates`).
-/

namespace StarFreight

variable {systems : List StarSystem} {arcs gates : List (SystemId × SystemId)} {a b id : SystemId}
  {ids : List SystemId}

/-! ## Halving -/

/-- Of ascending numbers the one that stands further on is the larger. -/
theorem lt_of_getElem?_of_lt {ns : Array Int} (hsorted : ns.toList.Pairwise (· < ·)) {i j : Nat}
    {n m : Int} (hn : ns[i]? = some n) (hm : ns[j]? = some m) (hij : i < j) : n < m := by
  obtain ⟨hi, rfl⟩ := Array.getElem?_eq_some_iff.mp hn
  obtain ⟨hj, rfl⟩ := Array.getElem?_eq_some_iff.mp hm
  exact List.pairwise_iff_getElem.mp hsorted i j hi hj hij

/-- **Halving finds what stands between the two positions**, and nothing else. -/
theorem searchBetween_eq_true_iff {ns : Array Int} (hsorted : ns.toList.Pairwise (· < ·))
    {n : Int} {low high : Nat} (hhigh : high ≤ ns.size) :
    searchBetween ns n low high = true ↔ ∃ i, low ≤ i ∧ i < high ∧ ns[i]? = some n := by
  fun_induction searchBetween ns n low high with
  | case1 low high hlt middle hmiddle =>
    have hsize := Array.getElem?_eq_none_iff.mp hmiddle
    omega
  | case2 low high hlt middle m hmiddle hless ih =>
    -- what is smaller than the one in the middle stands in front of it
    rw [ih (by omega)]
    refine exists_congr fun i => and_congr_right fun _ => ?_
    constructor
    · exact fun ⟨hi, hn⟩ => ⟨by omega, hn⟩
    · rintro ⟨-, hn⟩
      refine ⟨Nat.lt_of_not_le fun hle => ?_, hn⟩
      rcases Nat.eq_or_lt_of_le hle with rfl | hlt'
      · exact hless.ne (Option.some.inj (hn.symm.trans hmiddle))
      · exact lt_asymm hless (lt_of_getElem?_of_lt hsorted hmiddle hn hlt')
  | case3 low high hlt middle m hmiddle hless hmore ih =>
    rw [ih hhigh]
    refine exists_congr fun i => ?_
    constructor
    · exact fun ⟨hi, hn⟩ => ⟨by omega, hn⟩
    · rintro ⟨-, hi, hn⟩
      refine ⟨Nat.lt_of_not_le fun hle => ?_, hi, hn⟩
      rcases Nat.eq_or_lt_of_le hle with rfl | hlt'
      · exact hmore.ne (Option.some.inj (hmiddle.symm.trans hn))
      · exact hless (lt_of_getElem?_of_lt hsorted hn hmiddle hlt')
  | case4 low high hlt middle m hmiddle hless hmore =>
    obtain rfl : m = n := le_antisymm (not_lt.mp hless) (not_lt.mp hmore)
    exact iff_of_true rfl ⟨middle, by omega, by omega, hmiddle⟩
  | case5 low high hle =>
    exact iff_of_false (by simp) fun ⟨i, hi, hi', _⟩ => hle (by omega)

namespace Graph

theorem connected_iff_of_ascending {g : Graph} (h : (g.neighbours a).toList.Pairwise (· < ·)) :
    g.connected a b = true ↔ b ∈ g.neighbours a := by
  rw [connected, degree, searchBetween_eq_true_iff h (le_refl _), Array.mem_iff_getElem?]
  refine exists_congr fun i => ?_
  constructor
  · exact fun ⟨_, _, hi⟩ => hi
  · intro hi
    obtain ⟨hlt, -⟩ := Array.getElem?_eq_some_iff.mp hi
    exact ⟨Nat.zero_le i, hlt, hi⟩

/-- **Systems are connected as an arc says**, in the order in which it names them. -/
theorem connected_ofArcs : (ofArcs systems arcs).connected a b = true ↔ (a, b) ∈ arcs :=
  (connected_iff_of_ascending pairwise_neighbours_ofArcs).trans mem_neighbours_ofArcs

/-- The arcs of a graph whose neighbours are listed system by system. -/
def listedArcs (lists : Std.TreeMap SystemId (List SystemId)) : List (SystemId × SystemId) :=
  lists.toList.flatMap fun (a, neighbours) => neighbours.map (a, ·)

theorem mem_listedArcs {lists : Std.TreeMap SystemId (List SystemId)} :
    (a, b) ∈ listedArcs lists ↔ b ∈ lists.getD a [] := by
  simp only [listedArcs, List.mem_flatMap, List.mem_map, Prod.exists, Prod.mk.injEq,
    Std.TreeMap.mem_toList_iff_getElem?_eq_some, Std.TreeMap.getD_eq_getD_getElem?]
  constructor
  · rintro ⟨_, neighbours, hfound, _, hmem, rfl, rfl⟩
    rwa [hfound, Option.getD_some]
  · intro hmem
    cases hfound : lists[a]? with
    | none =>
      rw [hfound] at hmem
      cases hmem
    | some neighbours =>
      rw [hfound] at hmem
      exact ⟨a, neighbours, hfound, b, hmem, rfl, rfl⟩

/-- **Lists in any order and with any repetitions connect a system to what is on its
list**, in the one direction in which it is there. -/
theorem connected_listedArcs {lists : Std.TreeMap SystemId (List SystemId)} :
    (ofArcs systems (listedArcs lists)).connected a b = true ↔ b ∈ lists.getD a [] :=
  connected_ofArcs.trans mem_listedArcs

theorem connected_ofGates : (ofGates systems gates).connected a b = true ↔
    b ∈ (ofGates systems gates).neighbours a :=
  connected_iff_of_ascending pairwise_neighbours_ofArcs

/-- Connections of gates have no direction. -/
theorem mem_neighbours_ofGates_comm :
    b ∈ (ofGates systems gates).neighbours a ↔ a ∈ (ofGates systems gates).neighbours b := by
  simp only [mem_neighbours_ofGates, ne_comm (a := a), or_comm (a := (a, b) ∈ gates)]
  tauto

/-! ## Degrees -/

/-- The arcs that start from a system are as many as its neighbours. -/
theorem card_filter_fst_ofArcs :
    (arcs.toFinset.filter fun arc => arc.1 = id).card = (ofArcs systems arcs).degree id := by
  have hneighbours : (arcs.toFinset.filter fun arc => arc.1 = id) =
      ((ofArcs systems arcs).neighbours id).toList.toFinset.map
        ⟨Prod.mk id, Prod.mk_right_injective id⟩ := by
    ext ⟨u, v⟩
    simp only [Finset.mem_filter, List.mem_toFinset, Finset.mem_map, Array.mem_toList_iff,
      mem_neighbours_ofArcs, Function.Embedding.coeFn_mk, Prod.mk.injEq]
    constructor
    · rintro ⟨harc, rfl⟩
      exact ⟨v, harc, rfl, rfl⟩
    · rintro ⟨_, harc, rfl, rfl⟩
      exact ⟨harc, rfl⟩
  have hnodup : ((ofArcs systems arcs).neighbours id).toList.Nodup :=
    pairwise_neighbours_ofArcs.imp fun hlt => hlt.ne
  rw [hneighbours, Finset.card_map, List.toFinset_card_of_nodup hnodup]
  rfl

/-- Every system is listed once. -/
theorem map_id_systemList (g : Graph) : g.systemList.map (·.id) = g.systems.keys := by
  rw [systemList, List.map_map, ← Std.TreeMap.map_fst_toList_eq_keys]
  refine List.map_congr_left fun entry hentry => ?_
  exact g.keyed entry.1 entry.2 (Std.TreeMap.mem_toList_iff_getElem?_eq_some.mp hentry)

/-- **The degrees of all systems that arcs start from sum to the number of arcs.** -/
theorem sum_degree_ofArcs (systems : List StarSystem) (hnodup : ids.Nodup)
    (hids : ∀ arc ∈ arcs, arc.1 ∈ ids) :
    (ids.map (ofArcs systems arcs).degree).sum = arcs.toFinset.card := by
  have hstarts : Set.MapsTo Prod.fst (arcs.toFinset : Set (SystemId × SystemId))
      (ids.toFinset : Set SystemId) := by
    intro arc harc
    simpa using hids arc (by simpa using harc)
  rw [Finset.card_eq_sum_card_fiberwise hstarts, List.sum_toFinset _ hnodup]
  exact congrArg List.sum (List.map_congr_left fun id _ => card_filter_fst_ofArcs.symm)

/-- **Arcs are counted once each**, however often they were given. -/
theorem arcCount_ofArcs (systems : List StarSystem) (arcs : List (SystemId × SystemId)) :
    (ofArcs systems arcs).arcCount = arcs.toFinset.card := by
  let g := ofArcs systems arcs
  have hdegrees : g.adjacency.toList.map (·.2.size) = g.adjacency.keys.map g.degree := by
    rw [← Std.TreeMap.map_fst_toList_eq_keys, List.map_map]
    refine List.map_congr_left fun entry hentry => ?_
    have hfound := Std.TreeMap.mem_toList_iff_getElem?_eq_some.mp hentry
    simp only [Function.comp_apply, degree, neighbours, Std.TreeMap.getD_eq_getD_getElem?, hfound,
      Option.getD_some]
  have hstarts : ∀ arc ∈ arcs, arc.1 ∈ g.adjacency.keys := by
    intro arc harc
    have hneighbour : arc.2 ∈ g.neighbours arc.1 := mem_neighbours_ofArcs.mpr harc
    by_contra hnone
    rw [Std.TreeMap.mem_keys] at hnone
    rw [neighbours, Std.TreeMap.getD_eq_fallback hnone] at hneighbour
    cases Array.not_mem_empty _ hneighbour
  change (g.adjacency.toList.map (·.2.size)).foldr (· + ·) 0 = _
  rw [← List.sum_eq_foldr, hdegrees, sum_degree_ofArcs systems Std.TreeMap.nodup_keys hstarts]

/-! ## Pairs -/

/-- Arcs that go both ways and lead elsewhere are twice as many as the pairs they join. -/
theorem card_eq_two_mul_card_pairs {arcs : Finset (SystemId × SystemId)}
    (hback : ∀ a b, (a, b) ∈ arcs → (b, a) ∈ arcs) (haway : ∀ a, (a, a) ∉ arcs) :
    arcs.card = 2 * (arcs.image fun arc => s(arc.1, arc.2)).card := by
  rw [Finset.card_eq_sum_card_image (fun arc => s(arc.1, arc.2)), mul_comm]
  refine Finset.sum_const_nat fun pair hpair => ?_
  obtain ⟨⟨a, b⟩, harc, rfl⟩ := Finset.mem_image.mp hpair
  have hne : a ≠ b := by
    rintro rfl
    exact haway a harc
  have hboth : (arcs.filter fun arc => s(arc.1, arc.2) = s(a, b)) = {(a, b), (b, a)} := by
    ext ⟨u, v⟩
    simp only [Finset.mem_filter, Sym2.eq_iff, Finset.mem_insert, Finset.mem_singleton,
      Prod.mk.injEq]
    constructor
    · exact fun h => h.2
    · rintro (⟨rfl, rfl⟩ | ⟨rfl, rfl⟩)
      · exact ⟨harc, .inl ⟨rfl, rfl⟩⟩
      · exact ⟨hback _ _ harc, .inr ⟨rfl, rfl⟩⟩
  rw [hboth, Finset.card_pair fun h => hne (Prod.mk.inj h).1]

/-- The pairs of systems that a graph connects. -/
def pairs (g : Graph) : Set (Sym2 SystemId) :=
  {pair | ∃ a b, pair = s(a, b) ∧ b ∈ g.neighbours a}

/-- **There are two arcs to every pair of systems that gates connect.** -/
theorem exists_card_pairs_ofGates (systems : List StarSystem)
    (gates : List (SystemId × SystemId)) :
    ∃ n : ℕ, (ofGates systems gates).arcCount = 2 * n ∧
      (ofGates systems gates).pairs.encard = n := by
  let arcs := gateArcs (ofArcs systems []).contains gates
  have hmem : ∀ a b, (a, b) ∈ arcs.toFinset ↔ b ∈ (ofGates systems gates).neighbours a :=
    fun a b => List.mem_toFinset.trans mem_neighbours_ofArcs.symm
  refine ⟨(arcs.toFinset.image fun arc => s(arc.1, arc.2)).card, ?_, ?_⟩
  · refine (arcCount_ofArcs _ _).trans
      (card_eq_two_mul_card_pairs (fun a b harc => ?_) fun a harc => ?_)
    · rwa [hmem, mem_neighbours_ofGates_comm, ← hmem]
    · exact (mem_neighbours_ofGates.mp ((hmem a a).mp harc)).1 rfl
  · rw [← Set.encard_coe_eq_coe_finsetCard]
    congr 1
    ext pair
    simp only [pairs, Set.mem_ofPred_eq, Finset.coe_image, Set.mem_image, Finset.mem_coe,
      Prod.exists, hmem]
    constructor
    · rintro ⟨a, b, rfl, hb⟩
      exact ⟨a, b, hb, rfl⟩
    · rintro ⟨a, b, hb, rfl⟩
      exact ⟨a, b, rfl, hb⟩

/-- **The degrees of all systems sum to twice the number of connections.** -/
theorem sum_degree_ofGates :
    ((ofGates systems gates).systemList.map fun s => (ofGates systems gates).degree s.id).sum =
      2 * (ofGates systems gates).edgeCount := by
  obtain ⟨n, hcount, -⟩ := exists_card_pairs_ofGates systems gates
  have hstarts : ∀ arc ∈ gateArcs (ofArcs systems []).contains gates,
      arc.1 ∈ (ofGates systems gates).systems.keys := by
    rintro ⟨a, b⟩ harc
    exact Std.TreeMap.mem_keys.mpr (mem_gateArcs.mp harc).2.1
  have hdegrees := sum_degree_ofArcs systems Std.TreeMap.nodup_keys hstarts
  rw [← map_id_systemList, List.map_map, ← arcCount_ofArcs systems] at hdegrees
  rw [edgeCount, hcount, Nat.mul_div_cancel_left n two_pos, ← hcount]
  exact hdegrees

/-- **The connections that are counted are the pairs of systems that gates connect.** -/
theorem encard_pairs_ofGates :
    (ofGates systems gates).pairs.encard = (ofGates systems gates).edgeCount := by
  obtain ⟨n, hcount, hpairs⟩ := exists_card_pairs_ofGates systems gates
  rw [hpairs, edgeCount, hcount, Nat.mul_div_cancel_left n two_pos]

end Graph

end StarFreight
