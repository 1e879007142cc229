import Mathlib.Data.List.Sort
import StarFreight.Chart.Snapshot
/-!
# Chart — what a loaded graph holds

A graph is made from lists; this file says what it holds in terms of them. Of
the systems of one number it has the last (`getElem?_indexSystems`), so a system
with a new number is one more, wherever in the list it stands
(`getElem?_indexSystems_insert`); a snapshot finds a system by any name that one
of them has (`Snapshot.idByName?_ofGraph`). And two systems are neighbours exactly
when they are different, both known, and joined by a gate in either direction
(`mem_neighbours_ofGates`). The order of the lists does not matter, but for systems
of one number: `indexSystems_congr`, `neighbours_ofArcs_congr`.
-/

namespace StarFreight

variable {systems front rest : List StarSystem} {s : StarSystem} {id a b : SystemId}
  {arcs gates : List (SystemId × SystemId)} {known : SystemId → Bool}

/-! ## Systems -/

/-- **Of the systems with one number, an index has the last.** -/
theorem getElem?_indexSystems (systems : List StarSystem) (id : SystemId) :
    (indexSystems systems)[id]? = (systems.filter fun s => s.id == id).getLast? := by
  suffices key : ∀ m : Std.TreeMap SystemId StarSystem,
      (systems.foldl (fun m s => m.insert s.id s) m)[id]? =
        (systems.filter fun s => s.id == id).getLast?.or m[id]? by
    rw [indexSystems, key]
    simp
  induction systems with
  | nil => exact fun m => rfl
  | cons a systems ih =>
    intro m
    rw [List.foldl_cons, ih, lookup_insert, List.filter_cons]
    by_cases ha : a.id = id
    · simp only [ha, if_true, beq_self_eq_true, List.getLast?_cons]
      cases (systems.filter fun s => s.id == id).getLast? <;> rfl
    · simp only [ha, if_false, beq_eq_false_iff_ne.mpr ha, Bool.false_eq_true]

/-- An index has a system under a number exactly when the list does. -/
theorem isSome_getElem?_indexSystems :
    (indexSystems systems)[id]?.isSome = true ↔ ∃ s ∈ systems, s.id = id := by
  rw [getElem?_indexSystems, List.getLast?_isSome, Ne, List.filter_eq_nil_iff]
  simp

/-- What an index has is in the list. -/
theorem mem_of_indexSystems (h : (indexSystems systems)[id]? = some s) : s ∈ systems := by
  rw [getElem?_indexSystems] at h
  exact (List.mem_filter.mp (List.mem_of_getLast? h)).1

/-- **A system with a new number is one more.** -/
theorem getElem?_indexSystems_insert (hnew : ∀ t ∈ front ++ rest, t.id ≠ s.id) :
    (indexSystems (front ++ s :: rest))[id]? =
      if s.id = id then some s else (indexSystems (front ++ rest))[id]? := by
  simp only [getElem?_indexSystems, List.filter_append, List.filter_cons]
  by_cases hid : s.id = id
  · have hnone : ∀ l ⊆ front ++ rest, l.filter (fun t => t.id == id) = [] := by
      intro l hl
      exact List.filter_eq_nil_iff.mpr fun t ht => by simpa [← hid] using hnew t (hl ht)
    rw [hnone rest (List.subset_append_right _ _)]
    simp [hid]
  · simp only [hid, if_false, beq_eq_false_iff_ne.mpr hid, Bool.false_eq_true]

/-- Where numbers are not shared, an index has the systems of the list. -/
theorem getElem?_indexSystems_eq_some (hids : ∀ a ∈ systems, ∀ b ∈ systems, a.id = b.id → a = b) :
    (indexSystems systems)[id]? = some s ↔ s ∈ systems ∧ s.id = id := by
  rw [getElem?_indexSystems]
  constructor
  · intro hlast
    simpa using List.mem_of_getLast? hlast
  · rintro ⟨hs, hid⟩
    have hmem : s ∈ systems.filter fun s => s.id == id := by simp [hs, hid]
    obtain ⟨t, ht⟩ := Option.isSome_iff_exists.mp
      (List.getLast?_isSome.mpr (List.ne_nil_of_mem hmem))
    obtain ⟨hts, htid⟩ := List.mem_filter.mp (List.mem_of_getLast? ht)
    rw [ht, hids t hts s hs ((beq_iff_eq.mp htid).trans hid.symm)]

/-- **An index is told by the systems of the list, in any order.** -/
theorem indexSystems_congr {systems' : List StarSystem}
    (hids : ∀ a ∈ systems, ∀ b ∈ systems, a.id = b.id → a = b)
    (hsame : ∀ s, s ∈ systems ↔ s ∈ systems') (id : SystemId) :
    (indexSystems systems)[id]? = (indexSystems systems')[id]? := by
  have hids' : ∀ a ∈ systems', ∀ b ∈ systems', a.id = b.id → a = b := fun a ha b hb =>
    hids a ((hsame a).mpr ha) b ((hsame b).mpr hb)
  refine Option.ext fun s => ?_
  rw [getElem?_indexSystems_eq_some hids, getElem?_indexSystems_eq_some hids', hsame]

/-! ## Names -/

/-- Of the systems with one normalized name, an index of names has the last. -/
theorem getElem?_indexNames (systems : List StarSystem) (name : String) :
    (Snapshot.indexNames systems)[name]? =
      ((systems.filter fun s => Text.normalizeName s.name == name).getLast?).map (·.id) := by
  suffices key : ∀ m : Std.TreeMap String SystemId,
      (systems.foldl (fun m s => m.insert (Text.normalizeName s.name) s.id) m)[name]? =
        (((systems.filter fun s => Text.normalizeName s.name == name).getLast?).map (·.id)).or
          m[name]? by
    rw [Snapshot.indexNames, key]
    simp
  induction systems with
  | nil => exact fun m => rfl
  | cons a systems ih =>
    intro m
    rw [List.foldl_cons, ih, Std.TreeMap.getElem?_insert, List.filter_cons]
    simp only [Std.LawfulEqCmp.compare_eq_iff_eq]
    by_cases ha : Text.normalizeName a.name = name
    · simp only [ha, if_true, beq_self_eq_true, List.getLast?_cons]
      cases (systems.filter fun s => Text.normalizeName s.name == name).getLast? <;> rfl
    · simp only [ha, if_false, beq_eq_false_iff_ne.mpr ha, Bool.false_eq_true]

theorem Graph.system?_of_mem_systemList {g : Graph} (h : s ∈ g.systemList) :
    g.system? s.id = some s := by
  obtain ⟨⟨id, other⟩, hentry, rfl⟩ := List.mem_map.mp h
  have hother := Std.TreeMap.mem_toList_iff_getElem?_eq_some.mp hentry
  obtain rfl := g.keyed id other hother
  exact hother

/-- **A snapshot knows a system by name if its graph has one of that name**, and then
one of these. -/
theorem Snapshot.idByName?_ofGraph (g : Graph) (demands : GraphDemands) (generation : Nat)
    (name : String) :
    (∀ id, (ofGraph g demands generation).idByName? name = some id →
      ∃ s ∈ g.systemList, s.id = id ∧ Text.normalizeName s.name = Text.normalizeName name) ∧
    ((∃ s ∈ g.systemList, Text.normalizeName s.name = Text.normalizeName name) →
      ((ofGraph g demands generation).idByName? name).isSome = true) := by
  have hfind : (ofGraph g demands generation).idByName? name =
      ((g.systemList.filter fun s => Text.normalizeName s.name == Text.normalizeName name)
        |>.getLast?).map (·.id) :=
    getElem?_indexNames g.systemList (Text.normalizeName name)
  rw [hfind]
  constructor
  · intro id hid
    obtain ⟨s, hs, rfl⟩ := Option.map_eq_some_iff.mp hid
    obtain ⟨hmem, hname⟩ := List.mem_filter.mp (List.mem_of_getLast? hs)
    exact ⟨s, hmem, rfl, beq_iff_eq.mp hname⟩
  · rintro ⟨s, hs, hname⟩
    rw [Option.isSome_map, List.getLast?_isSome]
    exact List.ne_nil_of_mem (List.mem_filter.mpr ⟨hs, beq_iff_eq.mpr hname⟩)

/-! ## Neighbours -/

theorem mem_getD_foldl_addArc (lists : Std.TreeMap SystemId (List SystemId)) :
    b ∈ (arcs.foldl Graph.addArc lists).getD a [] ↔ (a, b) ∈ arcs ∨ b ∈ lists.getD a [] := by
  induction arcs generalizing lists with
  | nil => simp
  | cons arc arcs ih =>
    obtain ⟨c, d⟩ := arc
    rw [List.foldl_cons, ih, Graph.addArc, Std.TreeMap.getD_insert]
    simp only [Std.LawfulEqCmp.compare_eq_iff_eq]
    by_cases hc : c = a
    · subst hc
      simp [or_left_comm, or_assoc]
    · simp [hc, Ne.symm hc]

theorem pairwise_getD_foldl_addArc (lists : Std.TreeMap SystemId (List SystemId))
    (h : ∀ a, (lists.getD a []).Pairwise (· < ·)) :
    ((arcs.foldl Graph.addArc lists).getD a []).Pairwise (· < ·) := by
  induction arcs generalizing lists with
  | nil => exact h a
  | cons arc arcs ih =>
    refine ih _ fun b => ?_
    rw [Graph.addArc, Std.TreeMap.getD_insert]
    split
    · exact pairwise_insertAscending (h arc.1)
    · exact h b

namespace Graph

/-- The neighbours of a system are those gathered for it. -/
theorem toList_neighbours_ofArcs :
    ((ofArcs systems arcs).neighbours a).toList = (arcs.foldl addArc {}).getD a [] := by
  simp only [neighbours, ofArcs, gather, Std.TreeMap.getD_eq_getD_getElem?,
    Std.TreeMap.getElem?_map]
  cases (arcs.foldl addArc {})[a]? <;> rfl

/-- A neighbour is what an arc leads to. -/
theorem mem_neighbours_ofArcs :
    b ∈ (ofArcs systems arcs).neighbours a ↔ (a, b) ∈ arcs := by
  rw [← Array.mem_toList_iff, toList_neighbours_ofArcs, mem_getD_foldl_addArc]
  simp

theorem pairwise_neighbours_ofArcs :
    ((ofArcs systems arcs).neighbours a).toList.Pairwise (· < ·) := by
  rw [toList_neighbours_ofArcs]
  exact pairwise_getD_foldl_addArc {} fun a => by simp

/-- **Neighbours are told by the arcs, in any order.** -/
theorem neighbours_ofArcs_congr {systems' : List StarSystem} {arcs' : List (SystemId × SystemId)}
    (hsame : ∀ arc, arc ∈ arcs ↔ arc ∈ arcs') :
    (ofArcs systems arcs).neighbours a = (ofArcs systems' arcs').neighbours a := by
  refine Array.toList_inj.mp (pairwise_neighbours_ofArcs.eq_of_mem_iff pairwise_neighbours_ofArcs
    fun b => ?_)
  rw [Array.mem_toList_iff, Array.mem_toList_iff, mem_neighbours_ofArcs, mem_neighbours_ofArcs,
    hsame]

theorem mem_gateArcs : (a, b) ∈ gateArcs known gates ↔
    a ≠ b ∧ known a = true ∧ known b = true ∧ ((a, b) ∈ gates ∨ (b, a) ∈ gates) := by
  simp only [gateArcs, List.mem_flatMap, List.mem_filter, Bool.and_eq_true, bne_iff_ne, ne_eq,
    List.mem_cons, Prod.mk.injEq, List.not_mem_nil, or_false]
  constructor
  · rintro ⟨⟨c, d⟩, ⟨hgate, ⟨hne, hc⟩, hd⟩, ⟨rfl, rfl⟩ | ⟨rfl, rfl⟩⟩
    · exact ⟨hne, hc, hd, .inl hgate⟩
    · exact ⟨Ne.symm hne, hd, hc, .inr hgate⟩
  · rintro ⟨hne, ha, hb, hgate | hgate⟩
    · exact ⟨(a, b), ⟨hgate, ⟨hne, ha⟩, hb⟩, .inl ⟨rfl, rfl⟩⟩
    · exact ⟨(b, a), ⟨hgate, ⟨Ne.symm hne, hb⟩, ha⟩, .inr ⟨rfl, rfl⟩⟩

theorem contains_ofArcs :
    (ofArcs systems arcs).contains id = true ↔ ∃ s ∈ systems, s.id = id := by
  rw [← isSome_getElem?_indexSystems, ← Std.TreeMap.contains_eq_isSome_getElem?]
  rfl

theorem contains_ofGates :
    (ofGates systems gates).contains id = true ↔ ∃ s ∈ systems, s.id = id :=
  contains_ofArcs

/-- **Neighbours are different, both known, and joined by a gate in either direction.** -/
theorem mem_neighbours_ofGates : b ∈ (ofGates systems gates).neighbours a ↔
    a ≠ b ∧ (∃ s ∈ systems, s.id = a) ∧ (∃ s ∈ systems, s.id = b) ∧
      ((a, b) ∈ gates ∨ (b, a) ∈ gates) := by
  simp only [ofGates, mem_neighbours_ofArcs, mem_gateArcs, contains_ofArcs]

end Graph

end StarFreight
