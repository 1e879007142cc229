import Mathlib.Data.List.Forall2
/-!
# Store — steps that succeed

What stands in the tables is read in steps of which each may fail. The result of
a whole that succeeds is the result of its last step, and every step before it
succeeded (`bind_eq_ok`); a list of steps succeeds one by one (`mapM_eq_ok`).
-/

namespace StarFreight

variable {ε ε' α β : Type}

/-- Two steps succeed when the first does, and the second on what it gave. -/
theorem bind_eq_ok {x : Except ε α} {f : α → Except ε β} {b : β} :
    x >>= f = .ok b ↔ ∃ a, x = .ok a ∧ f a = .ok b := by
  cases x <;> simp [bind, Except.bind]

/-- They fail when the first does, or the second on what it gave. -/
theorem bind_eq_error {x : Except ε α} {f : α → Except ε β} {e : ε} :
    x >>= f = .error e ↔ x = .error e ∨ ∃ a, x = .ok a ∧ f a = .error e := by
  cases x <;> simp [bind, Except.bind]

theorem map_eq_ok {x : Except ε α} {f : α → β} {b : β} :
    x.map f = .ok b ↔ ∃ a, x = .ok a ∧ f a = b := by
  cases x <;> simp [Except.map]

theorem mapError_eq_ok {x : Except ε α} {f : ε → ε'} {a : α} :
    x.mapError f = .ok a ↔ x = .ok a := by
  cases x <;> simp [Except.mapError]

theorem mapError_eq_error {x : Except ε α} {f : ε → ε'} {e : ε'} :
    x.mapError f = .error e ↔ ∃ fault, x = .error fault ∧ f fault = e := by
  cases x <;> simp [Except.mapError]

/-- What is done with the result of a second step is done as part of it. -/
theorem bind_map {γ : Type} (x : Except ε α) (f : α → Except ε β) (g : β → γ) :
    (x >>= f).map g = x >>= fun a => (f a).map g := by
  cases x <;> rfl

/-- What is done with a result that was changed is done with the change. -/
theorem map_bind {γ : Type} (x : Except ε α) (g : α → β) (f : β → Except ε γ) :
    x.map g >>= f = x >>= fun a => f (g a) := by
  cases x <;> rfl

theorem pure_eq_ok {a b : α} : (pure a : Except ε α) = .ok b ↔ a = b := by
  simp [pure, Except.pure]

theorem toOption_eq_some_iff {x : Except ε α} {a : α} : x.toOption = some a ↔ x = .ok a := by
  cases x <;> simp [Except.toOption]

/-- What has to be found is found when the search for it succeeds and finds it. -/
theorem demand_eq_ok {x : Except ε (Option α)} {f : ε → ε'} {next : Option α → Except ε' α} {a : α}
    (hsome : ∀ b, next (some b) = .ok b) (hnone : ∀ b, next none ≠ .ok b) :
    x.mapError f >>= next = .ok a ↔ x = .ok (some a) := by
  rw [bind_eq_ok]
  constructor
  · rintro ⟨found, hfound, h⟩
    cases found with
    | none => exact absurd h (hnone a)
    | some other =>
      obtain rfl := Except.ok.inj ((hsome other).symm.trans h)
      exact mapError_eq_ok.mp hfound
  · exact fun h => ⟨some a, mapError_eq_ok.mpr h, hsome a⟩

/-- **A list of steps succeeds when each of them does**, with their results in
order. -/
theorem mapM_eq_ok {f : α → Except ε β} {as : List α} {bs : List β} :
    as.mapM f = .ok bs ↔ List.Forall₂ (fun a b => f a = .ok b) as bs := by
  induction as generalizing bs with
  | nil =>
    rw [List.mapM_nil, pure_eq_ok, List.forall₂_nil_left_iff]
    exact eq_comm
  | cons a as ih =>
    rw [List.mapM_cons, List.forall₂_cons_left_iff]
    constructor
    · intro h
      obtain ⟨b, hb, h⟩ := bind_eq_ok.mp h
      obtain ⟨rest, hrest, h⟩ := bind_eq_ok.mp h
      exact ⟨b, rest, hb, ih.mp hrest, (pure_eq_ok.mp h).symm⟩
    · rintro ⟨b, rest, hb, hrest, rfl⟩
      exact bind_eq_ok.mpr ⟨b, hb, bind_eq_ok.mpr ⟨rest, ih.mpr hrest, rfl⟩⟩

/-- **A list of steps fails as the first of them that does.** -/
theorem mapM_eq_error {f : α → Except ε β} {as : List α} {e : ε} :
    as.mapM f = .error e ↔ ∃ before a after, as = before ++ a :: after ∧
      (∀ b ∈ before, ∃ r, f b = .ok r) ∧ f a = .error e := by
  induction as with
  | nil => simp [pure, Except.pure]
  | cons a as ih =>
    rw [List.mapM_cons, bind_eq_error]
    constructor
    · rintro (ha | ⟨r, ha, h⟩)
      · exact ⟨[], a, as, rfl, List.forall_mem_nil _, ha⟩
      · rcases bind_eq_error.mp h with hrest | ⟨rest, -, h⟩
        · obtain ⟨before, b, after, rfl, hbefore, hb⟩ := ih.mp hrest
          exact ⟨a :: before, b, after, rfl, List.forall_mem_cons.mpr ⟨⟨r, ha⟩, hbefore⟩, hb⟩
        · cases h
    · rintro ⟨before, b, after, hsplit, hbefore, hb⟩
      cases before with
      | nil =>
        obtain ⟨rfl, rfl⟩ := List.cons.inj hsplit
        exact .inl hb
      | cons first before =>
        obtain ⟨rfl, rfl⟩ := List.cons.inj hsplit
        obtain ⟨⟨r, hr⟩, hbefore⟩ := List.forall_mem_cons.mp hbefore
        have hrest := ih.mpr ⟨before, b, after, rfl, hbefore, hb⟩
        exact .inr ⟨r, hr, bind_eq_error.mpr (.inl hrest)⟩

/-- A list of steps fails at one of them. -/
theorem exists_mem_of_mapM_eq_error {f : α → Except ε β} {as : List α} {e : ε}
    (h : as.mapM f = .error e) : ∃ a ∈ as, f a = .error e := by
  obtain ⟨before, a, after, rfl, -, ha⟩ := mapM_eq_error.mp h
  exact ⟨a, List.mem_append_right before List.mem_cons_self, ha⟩

/-- Steps that go alike from a state and its image go alike one after another. -/
theorem foldlM_map {σ : Type} {f : σ → α → Except ε σ} {g : σ → σ}
    (hf : ∀ s a, f (g s) a = (f s a).map g) (as : List α) (s : σ) :
    as.foldlM f (g s) = (as.foldlM f s).map g := by
  induction as generalizing s with
  | nil => rfl
  | cons a as ih => simp only [List.foldlM_cons, hf, map_bind, bind_map, ih]

/-- Where each has something that corresponds to it, there is a list that does. -/
theorem exists_forall₂ {R : α → β → Prop} {as : List α} (h : ∀ a ∈ as, ∃ b, R a b) :
    ∃ bs, List.Forall₂ R as bs := by
  induction as with
  | nil => exact ⟨[], .nil⟩
  | cons a as ih =>
    obtain ⟨b, hb⟩ := h a List.mem_cons_self
    obtain ⟨bs, hbs⟩ := ih fun c hc => h c (List.mem_cons_of_mem a hc)
    exact ⟨b :: bs, .cons hb hbs⟩

/-- A list of steps that can each succeed succeeds. -/
theorem exists_mapM_eq_ok {f : α → Except ε β} {as : List α} (h : ∀ a ∈ as, ∃ b, f a = .ok b) :
    ∃ bs, as.mapM f = .ok bs := by
  obtain ⟨bs, hbs⟩ := exists_forall₂ h
  exact ⟨bs, mapM_eq_ok.mpr hbs⟩

/-- What has a value throughout corresponds to its values. -/
theorem forall₂_filterMap {f : α → Option β} {as : List α} (h : ∀ a ∈ as, (f a).isSome = true) :
    List.Forall₂ (fun a b => f a = some b) as (as.filterMap f) := by
  induction as with
  | nil => exact .nil
  | cons a as ih =>
    obtain ⟨b, hb⟩ := Option.isSome_iff_exists.mp (h a List.mem_cons_self)
    rw [List.filterMap_cons_some hb]
    exact .cons hb (ih fun c hc => h c (List.mem_cons_of_mem a hc))

/-- Of two lists that correspond, the one has something where the other has. -/
theorem getElem?_of_forall₂ {R : α → β → Prop} {as : List α} {bs : List β}
    (h : List.Forall₂ R as bs) {i : Nat} {a : α} (hi : as[i]? = some a) :
    ∃ b, bs[i]? = some b ∧ R a b := by
  obtain ⟨hlt, rfl⟩ := List.getElem?_eq_some_iff.mp hi
  have hlt' : i < bs.length := h.length_eq ▸ hlt
  exact ⟨bs[i], List.getElem?_eq_getElem hlt', h.get hlt hlt'⟩

theorem exists_mem_of_forall₂ {R : α → β → Prop} {as : List α} {bs : List β}
    (h : List.Forall₂ R as bs) {a : α} (ha : a ∈ as) : ∃ b ∈ bs, R a b := by
  obtain ⟨i, hi⟩ := List.getElem?_of_mem ha
  obtain ⟨b, hb, hab⟩ := getElem?_of_forall₂ h hi
  exact ⟨b, List.mem_of_getElem? hb, hab⟩

/-- Of two lists that correspond, one has what the other has, if it is seen on both. -/
theorem exists_mem_congr {R : α → β → Prop} {P : α → Prop} {Q : β → Prop} {as : List α}
    {bs : List β} (h : List.Forall₂ R as bs) (hPQ : ∀ a b, R a b → (P a ↔ Q b)) :
    (∃ a ∈ as, P a) ↔ ∃ b ∈ bs, Q b := by
  induction h with
  | nil => simp
  | cons hab _ ih => simp only [List.exists_mem_cons_iff, hPQ _ _ hab, ih]

theorem head?_of_forall₂ {R : α → β → Prop} {as : List α} {bs : List β}
    (h : List.Forall₂ R as bs) {a : α} (ha : as.head? = some a) :
    ∃ b, bs.head? = some b ∧ R a b := by
  rw [List.head?_eq_getElem?] at ha ⊢
  exact getElem?_of_forall₂ h ha

theorem getLast?_of_forall₂ {R : α → β → Prop} {as : List α} {bs : List β}
    (h : List.Forall₂ R as bs) {a : α} (ha : as.getLast? = some a) :
    ∃ b, bs.getLast? = some b ∧ R a b := by
  rw [List.getLast?_eq_getElem?] at ha ⊢
  rw [← h.length_eq]
  exact getElem?_of_forall₂ h ha

end StarFreight
