import Mathlib.Data.List.Sort
import StarFreight.Chart.Suggestion
import StarFreight.Proofs.Chart.Loading
import StarFreight.Proofs.Decimal.Place
/-!
# Chart — what suggestions list

Suggestions are the best of all systems that score enough: the front of one ranking of
them, by score and then by name (`ListsNearest`), so the list for a smaller limit is the
front of the list for a larger one and nothing left out ranks before anything listed.
Systems that rank alike go by one name, so in what order systems are stored cannot be
told from the list. All of this holds for every scale, and so for the similarity of texts,
which is ranked as numbers are (`Snapshot.suggestions_best`): of a scale only its order is
used, by which different scores may be level.
-/

namespace StarFreight

variable {ω : Type} {scale : Scale ω} {wanted : String}
  {systems : List StarSystem} {s t : StarSystem}

/-! ## The order of scored names -/

namespace Scale

section ScoredNames

variable {a b c : ω × String}

theorem ranksBefore_iff : scale.ranksBefore a b = true ↔
    scale.compare a.1 b.1 = .gt ∨ scale.compare a.1 b.1 = .eq ∧ a.2 ≤ b.2 := by
  unfold ranksBefore
  cases h : scale.compare a.1 b.1 <;> simp

theorem ranksBefore_trans (hab : scale.ranksBefore a b = true)
    (hbc : scale.ranksBefore b c = true) : scale.ranksBefore a c = true := by
  rw [ranksBefore_iff] at hab hbc ⊢
  rcases hab with hab | ⟨hab, hnames⟩ <;> rcases hbc with hbc | ⟨hbc, hnames'⟩
  · exact .inl (Std.TransCmp.gt_trans hab hbc)
  · exact .inl (Std.TransCmp.gt_of_gt_of_eq hab hbc)
  · exact .inl (Std.TransCmp.gt_of_eq_of_gt hab hbc)
  · exact .inr ⟨Std.TransCmp.eq_trans hab hbc, String.le_trans hnames hnames'⟩

theorem ranksBefore_total (a b : ω × String) :
    (scale.ranksBefore a b || scale.ranksBefore b a) = true := by
  rw [Bool.or_eq_true, ranksBefore_iff, ranksBefore_iff]
  cases h : scale.compare a.1 b.1 with
  | gt => exact .inl (.inl rfl)
  | lt => exact .inr (.inl (Std.OrientedCmp.gt_of_lt h))
  | eq =>
    have hsame : scale.compare b.1 a.1 = .eq := Std.OrientedCmp.eq_symm h
    exact (String.le_total a.2 b.2).imp (fun hle => .inr ⟨rfl, hle⟩) fun hle => .inr ⟨hsame, hle⟩

/-- Scored names of which neither comes after the other are of one name. -/
theorem name_eq_of_ranksBefore (hab : scale.ranksBefore a b = true)
    (hba : scale.ranksBefore b a = true) : a.2 = b.2 := by
  rw [ranksBefore_iff] at hab hba
  rcases hab with hab | ⟨hab, hnames⟩ <;> rcases hba with hba | ⟨hba, hnames'⟩
  · rw [Std.OrientedCmp.gt_iff_lt, hba] at hab
    contradiction
  · rw [Std.OrientedCmp.eq_symm hba] at hab
    contradiction
  · rw [Std.OrientedCmp.eq_symm hab] at hba
    contradiction
  · exact String.le_antisymm hnames hnames'

end ScoredNames

/-- **In what order names come does not matter** to which are nearest. -/
theorem nearestNames_perm {names names' : List String} (h : names.Perm names') (limit : Nat) :
    scale.nearestNames names wanted limit = scale.nearestNames names' wanted limit := by
  -- a scored name is told by its name
  have hscored : ∀ names : List String, ∀ entry ∈
      ((names.map fun name => (scale.score wanted name, name)).filter
        fun entry => scale.enough entry.1).mergeSort scale.ranksBefore,
      entry.1 = scale.score wanted entry.2 := by
    intro names entry hentry
    rw [List.mem_mergeSort, List.mem_filter, List.mem_map] at hentry
    obtain ⟨⟨name, -, rfl⟩, -⟩ := hentry
    rfl
  have hsorted : ∀ entries : List (ω × String), (entries.mergeSort scale.ranksBefore).Pairwise
      fun a b => scale.ranksBefore a b = true :=
    List.pairwise_mergeSort (fun _ _ _ => ranksBefore_trans) ranksBefore_total
  have hnear := (h.map fun name => (scale.score wanted name, name)).filter
    fun entry => scale.enough entry.1
  have hperm := ((List.mergeSort_perm _ scale.ranksBefore).trans hnear).trans
    (List.mergeSort_perm _ scale.ranksBefore).symm
  have hsame := hperm.eq_of_pairwise (fun a b ha hb hab hba => by
    have hname := name_eq_of_ranksBefore hab hba
    exact Prod.ext (by rw [hscored _ a ha, hscored _ b hb, hname]) hname) (hsorted _) (hsorted _)
  exact congrArg (fun ranked => (ranked.take limit).map (·.2)) hsame

end Scale

/-! ## The ranking of systems -/

/-- Whether a system ranks before another: its name scores more, or as much and is the
smaller. -/
def Outranks (scale : Scale ω) (wanted : String) (s t : StarSystem) : Prop :=
  let compared := scale.compare (scale.score wanted s.name) (scale.score wanted t.name)
  compared = .gt ∨ compared = .eq ∧ s.name < t.name

/-- The systems that score enough. -/
def qualified (scale : Scale ω) (wanted : String) (systems : List StarSystem) :
    List StarSystem :=
  systems.filter fun s => scale.enough (scale.score wanted s.name)

/-- What a list of suggestions owes its systems, for each limit. -/
structure ListsNearest (scale : Scale ω) (wanted : String) (systems : List StarSystem)
    (listed : Nat → List String) : Prop where
  /-- There is one ranking, and what is listed is the front of it. -/
  ranking : ∃ ranked : List StarSystem, ranked.Perm (qualified scale wanted systems) ∧
    ranked.Pairwise (fun s t => ¬ Outranks scale wanted t s) ∧
    ∀ limit, listed limit = (ranked.take limit).map (·.name)
  length : ∀ limit, (listed limit).length = min limit (qualified scale wanted systems).length
  /-- Nothing left out ranks before anything listed. -/
  best : ∀ limit, ∃ shown omitted : List StarSystem,
    (shown ++ omitted).Perm (qualified scale wanted systems) ∧
    listed limit = shown.map (·.name) ∧ ∀ s ∈ omitted, ∀ t ∈ shown, ¬ Outranks scale wanted s t
  grows : ∀ {few many : Nat}, few ≤ many → listed few <+: listed many

/-- The front of a ranking is all that is asked for. -/
theorem ListsNearest.of_ranking {ranked : List StarSystem} {listed : Nat → List String}
    (hperm : ranked.Perm (qualified scale wanted systems))
    (hranked : ranked.Pairwise fun s t => ¬ Outranks scale wanted t s)
    (hlisted : ∀ limit, listed limit = (ranked.take limit).map (·.name)) :
    ListsNearest scale wanted systems listed where
  ranking := ⟨ranked, hperm, hranked, hlisted⟩
  length limit := by rw [hlisted, List.length_map, List.length_take, hperm.length_eq]
  best limit := by
    refine ⟨ranked.take limit, ranked.drop limit, ?_, hlisted limit, fun s hs t ht => ?_⟩
    · rw [List.take_append_drop]
      exact hperm
    · rw [← List.take_append_drop limit ranked] at hranked
      exact (List.pairwise_append.mp hranked).2.2 t ht s hs
  grows h := by
    rw [hlisted, hlisted]
    exact (List.take_prefix_take_left h).map _

/-- Whether one system does not rank behind another. -/
def goesBefore (scale : Scale ω) (wanted : String) (s t : StarSystem) : Bool :=
  scale.ranksBefore (scale.score wanted s.name, s.name) (scale.score wanted t.name, t.name)

theorem not_outranks_of_goesBefore (h : goesBefore scale wanted s t = true) :
    ¬ Outranks scale wanted t s := by
  rintro (hgt | ⟨heq, hname⟩)
  · rcases Scale.ranksBefore_iff.mp h with hgt' | ⟨heq', -⟩
    · rw [Std.OrientedCmp.gt_iff_lt, hgt'] at hgt
      contradiction
    · rw [Std.OrientedCmp.eq_symm heq'] at hgt
      contradiction
  · rcases Scale.ranksBefore_iff.mp h with hgt' | ⟨-, hle⟩
    · rw [Std.OrientedCmp.eq_symm heq] at hgt'
      contradiction
    · exact hle hname

/-- Ranking the names of systems is ranking the systems, whose names are then read off. -/
theorem nearestNames_map_name (scale : Scale ω) (wanted : String) (systems : List StarSystem)
    (limit : Nat) : scale.nearestNames (systems.map (·.name)) wanted limit =
      (((qualified scale wanted systems).mergeSort (goesBefore scale wanted)).take limit).map
        (·.name) := by
  have hnear : ((systems.map (·.name)).map fun name => (scale.score wanted name, name)).filter
        (fun entry => scale.enough entry.1) =
      (qualified scale wanted systems).map fun s => (scale.score wanted s.name, s.name) := by
    rw [List.map_map, List.filter_map, qualified]
    rfl
  have hsorted : ((qualified scale wanted systems).map
        fun s => (scale.score wanted s.name, s.name)).mergeSort scale.ranksBefore =
      ((qualified scale wanted systems).mergeSort (goesBefore scale wanted)).map
        fun s => (scale.score wanted s.name, s.name) := by
    refine (List.map_mergeSort ?_).symm
    exact fun _ _ _ _ => rfl
  rw [Scale.nearestNames, hnear, hsorted, ← List.map_take, List.map_map]
  rfl

/-! ## The suggestions of a snapshot -/

/-- What a snapshot is to suggest by a scale for each limit. -/
structure Snapshot.SuggestsBest (scale : Scale ω) (snapshot : Snapshot) (wanted : String)
    (listed : Nat → List String) : Prop where
  nearest : ListsNearest scale wanted snapshot.graph.systemList listed
  /-- The systems are gone through in any order. -/
  stored : ∀ stored : List StarSystem, stored.Perm snapshot.graph.systemList →
    scale.nearestNames (stored.map (·.name)) wanted = listed
  /-- And they are loaded in any order. -/
  loaded : ∀ (systems systems' : List StarSystem) (gates gates' : List (SystemId × SystemId)),
    snapshot.graph = Graph.ofGates systems gates → (systems.map (·.id)).Nodup →
    systems'.Perm systems → ∀ other : Snapshot, other.graph = Graph.ofGates systems' gates' →
      other.suggestionsBy scale wanted = listed

/-- The same systems are stored as the same list. -/
theorem Graph.systemList_congr {g g' : Graph} (h : ∀ id, g.system? id = g'.system? id) :
    g.systemList = g'.systemList := by
  have hequiv : g.systems.Equiv g'.systems := Std.TreeMap.Equiv.of_forall_constGet?_eq h
  rw [systemList, hequiv.toList_eq, systemList]

/-- **Suggestions are the best there are**, and the same however the systems are stored. -/
theorem Snapshot.suggestionsBy_best (scale : Scale ω) (snapshot : Snapshot) (wanted : String) :
    snapshot.SuggestsBest scale wanted (snapshot.suggestionsBy scale wanted) where
  nearest := by
    refine .of_ranking (List.mergeSort_perm _ _) ?_
      (nearestNames_map_name scale wanted snapshot.graph.systemList)
    have hsorted : ∀ systems : List StarSystem,
        (systems.mergeSort (goesBefore scale wanted)).Pairwise
          fun s t => goesBefore scale wanted s t = true :=
      List.pairwise_mergeSort (fun _ _ _ => Scale.ranksBefore_trans)
        fun _ _ => Scale.ranksBefore_total _ _
    exact (hsorted _).imp not_outranks_of_goesBefore
  stored stored hstored := by
    funext limit
    exact Scale.nearestNames_perm (hstored.map _) limit
  loaded systems systems' gates gates' hgraph hids hperm other hother := by
    have hone : ∀ a ∈ systems', ∀ b ∈ systems', a.id = b.id → a = b := fun a ha b hb =>
      List.inj_on_of_nodup_map hids (hperm.mem_iff.mp ha) (hperm.mem_iff.mp hb)
    have hsame : other.graph.systemList = snapshot.graph.systemList := by
      rw [hgraph, hother]
      exact Graph.systemList_congr (indexSystems_congr hone fun _ => hperm.mem_iff)
    funext limit
    simp only [Snapshot.suggestionsBy, hsame]

/-- How a scale is to rank texts. -/
structure Scale.RanksTexts (scale : Scale Float) : Prop where
  score : ∀ wanted name, scale.score wanted name =
    Text.similarity (Text.normalizeName wanted) (Text.normalizeName name)
  enough : ∀ score, scale.enough score = true ↔ 0.8 ≤ score
  higher : ∀ {score other : Float}, other < score → scale.compare score other = .gt
  /-- No two scores are level. -/
  level : ∀ {score other : Float}, scale.compare score other = .eq ↔ score = other

/-- Stated for all ways of placing: at the places of doubles the comparison would be
evaluated down to their bits. -/
theorem compareOn_eq_compare {α : Type} (place : α → Int) (a b : α) :
    compareOn place a b = compare (place a) (place b) := rfl

theorem textScale_compare : textScale.compare = compareOn Decimal.floatPlace := rfl

theorem textScale_ranksTexts : textScale.RanksTexts where
  score _ _ := rfl
  enough _ := decide_eq_true_iff
  higher h := by
    rw [textScale_compare, compareOn_eq_compare, Int.compare_eq_gt]
    exact Decimal.floatPlace_lt_of_lt h
  level := by
    intro score other
    rw [textScale_compare, compareOn_eq_compare, Int.compare_eq_eq]
    exact Decimal.floatPlace_injective.eq_iff

/-- **What is suggested for a name** are the names most similar to it, and by every other
scale the nearest are. -/
theorem Snapshot.suggestions_best (snapshot : Snapshot) (wanted : String) :
    textScale.RanksTexts ∧
      snapshot.SuggestsBest textScale wanted (snapshot.suggestions wanted) ∧
      ∀ {ω : Type} (scale : Scale ω),
        snapshot.SuggestsBest scale wanted (snapshot.suggestionsBy scale wanted) :=
  ⟨textScale_ranksTexts, suggestionsBy_best textScale snapshot wanted, fun scale =>
    suggestionsBy_best scale snapshot wanted⟩

end StarFreight
