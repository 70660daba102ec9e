import Mathlib.Data.List.TakeWhile

/-!
# Maximal runs

The longest stretches of a list whose elements are all in one class, for scanners that look at a text
one token at a time.

* `Stretch.induction` — a list is built by putting single elements outside the class, or whole runs, in
  front; the lemmas below follow this form.
-/

namespace Stretch

variable {α : Type} {p : α → Bool} {c : α} {s t a b : List α}

/-- `t` is not empty, lies in the class, and its neighbours do not. -/
structure Between (p : α → Bool) (before t after : List α) : Prop where
  nonempty : t ≠ []
  inside : ∀ c ∈ t, p c = true
  left : ∀ c ∈ before.getLast?, p c = false
  right : ∀ c ∈ after.head?, p c = false

def IsRun (p : α → Bool) (t s : List α) : Prop :=
  ∃ before after, s = before ++ t ++ after ∧ Between p before t after

def runs (p : α → Bool) : List α → List (List α)
  | [] => []
  | c :: rest =>
    if p c then (c :: rest).takeWhile p :: runs p (rest.dropWhile p) else runs p rest
termination_by s => s.length
decreasing_by
  · have := (List.dropWhile_sublist p (l := rest)).length_le
    simp only [List.length_cons]
    omega
  · simp

def mapRuns (p : α → Bool) (f : List α → List α) : List α → List α
  | [] => []
  | c :: rest =>
    if p c then f ((c :: rest).takeWhile p) ++ mapRuns p f (rest.dropWhile p)
    else c :: mapRuns p f rest
termination_by s => s.length
decreasing_by
  · have := (List.dropWhile_sublist p (l := rest)).length_le
    simp only [List.length_cons]
    omega
  · simp

theorem head_dropWhile (p : α → Bool) (s : List α) : ∀ c ∈ (s.dropWhile p).head?, p c = false := by
  intro c hc
  simpa [Option.mem_def.mp hc] using List.head?_dropWhile_not p s

theorem cut_run (hinside : ∀ c ∈ t, p c = true) (hright : ∀ c ∈ s.head?, p c = false) :
    (t ++ s).takeWhile p = t ∧ (t ++ s).dropWhile p = s := by
  rw [List.takeWhile_append_of_pos hinside, List.dropWhile_append_of_pos hinside]
  cases s with
  | nil => simp
  | cons c s => simp [hright c rfl]

theorem induction {motive : List α → Prop} (p : α → Bool) (nil : motive [])
    (cons : ∀ c s, p c = false → motive s → motive (c :: s))
    (run : ∀ t s, t ≠ [] → (∀ c ∈ t, p c = true) → (∀ c ∈ s.head?, p c = false) → motive s →
      motive (t ++ s)) (s : List α) : motive s := by
  induction hn : s.length using Nat.strongRecOn generalizing s with
  | ind n ih =>
    subst hn
    cases s with
    | nil => exact nil
    | cons c s =>
      cases hc : p c with
      | false => exact cons c s hc (ih s.length (by simp) s rfl)
      | true =>
        rw [← List.takeWhile_append_dropWhile (p := p) (l := c :: s)]
        have hshort : ((c :: s).dropWhile p).length < (c :: s).length := by
          have := (List.dropWhile_sublist p (l := s)).length_le
          rw [List.dropWhile_cons_of_pos hc, List.length_cons]
          omega
        refine run _ _ ?_ (fun d hd => List.mem_takeWhile_imp hd) (head_dropWhile p _)
          (ih _ hshort _ rfl)
        rw [List.takeWhile_cons_of_pos hc]
        exact List.cons_ne_nil _ _

/-! ### The runs of a list -/

@[simp] theorem runs_nil : runs p [] = [] := by rw [runs]

theorem runs_cons (hc : p c = false) : runs p (c :: s) = runs p s := by
  rw [runs, if_neg (by simp [hc])]

theorem runs_run (hne : t ≠ []) (hinside : ∀ c ∈ t, p c = true)
    (hright : ∀ c ∈ s.head?, p c = false) : runs p (t ++ s) = t :: runs p s := by
  obtain ⟨c, rest, rfl⟩ := List.exists_cons_of_ne_nil hne
  have hc := hinside c List.mem_cons_self
  obtain ⟨htake, hdrop⟩ := cut_run hinside hright
  rw [List.cons_append] at htake hdrop ⊢
  rw [List.dropWhile_cons_of_pos hc] at hdrop
  rw [runs, if_pos hc, htake, hdrop]

theorem runs_append
    (h : (∀ c ∈ a.getLast?, p c = false) ∨ ∀ c ∈ b.head?, p c = false) :
    runs p (a ++ b) = runs p a ++ runs p b := by
  induction a using induction (p := p) with
  | nil => rw [runs_nil]; rfl
  | cons c s hc ih =>
    have h' : (∀ c ∈ s.getLast?, p c = false) ∨ ∀ c ∈ b.head?, p c = false := by
      refine h.imp_left fun hlast d hd => hlast d ?_
      rw [List.getLast?_cons, Option.mem_def.mp hd]
      rfl
    rw [List.cons_append, runs_cons hc, runs_cons hc, ih h']
  | run t s hne hinside hright ih =>
    have hend : s = [] → ∀ c ∈ b.head?, p c = false := by
      rintro rfl
      refine h.resolve_left fun hlast => ?_
      rw [List.append_nil, List.getLast?_eq_some_getLast hne] at hlast
      have := hlast _ rfl
      rw [hinside _ (List.getLast_mem hne)] at this
      cases this
    have hnext : ∀ c ∈ (s ++ b).head?, p c = false := by
      cases s with
      | nil => exact hend rfl
      | cons d s => exact hright
    have h' : (∀ c ∈ s.getLast?, p c = false) ∨ ∀ c ∈ b.head?, p c = false := by
      cases s with
      | nil => exact .inr (hend rfl)
      | cons d s =>
        refine h.imp_left fun hlast e he => hlast e ?_
        rw [List.getLast?_append, Option.mem_def.mp he]
        rfl
    rw [List.append_assoc, runs_run hne hinside hnext, runs_run hne hinside hright, ih h',
      List.cons_append]

theorem runs_eq_singleton (hne : t ≠ []) (hinside : ∀ c ∈ t, p c = true) : runs p t = [t] := by
  have := runs_run (s := []) hne hinside nofun
  rwa [List.append_nil, runs_nil] at this

theorem Between.not_head {before after : List α} (h : Between p before t after)
    (hhead : ∀ c ∈ (before ++ t ++ after).head?, p c = false) : before ≠ [] := by
  rintro rfl
  obtain ⟨c, rest, rfl⟩ := List.exists_cons_of_ne_nil h.nonempty
  have hc := hhead c rfl
  rw [h.inside c List.mem_cons_self] at hc
  cases hc

theorem Between.cons {before after : List α} (h : Between p before t after) (hc : p c = false) :
    Between p (c :: before) t after := by
  refine ⟨h.nonempty, h.inside, fun d hd => ?_, h.right⟩
  cases before with
  | nil =>
    cases hd
    exact hc
  | cons e before =>
    rw [List.getLast?_cons_cons] at hd
    exact h.left d hd

theorem Between.append {before after : List α} (h : Between p before t after) (hne : before ≠ [])
    (a : List α) : Between p (a ++ before) t after := by
  refine ⟨h.nonempty, h.inside, ?_, h.right⟩
  rw [List.getLast?_append, List.getLast?_eq_some_getLast hne, Option.some_or,
    ← List.getLast?_eq_some_getLast hne]
  exact h.left

theorem mem_runs : t ∈ runs p s ↔ IsRun p t s := by
  constructor
  · intro h
    induction s using induction (p := p) with
    | nil =>
      rw [runs_nil] at h
      cases h
    | cons c s hc ih =>
      rw [runs_cons hc] at h
      obtain ⟨before, after, rfl, hbetween⟩ := ih h
      exact ⟨c :: before, after, rfl, hbetween.cons hc⟩
    | run t' s hne hinside hright ih =>
      rw [runs_run hne hinside hright] at h
      rcases List.mem_cons.mp h with rfl | h
      · exact ⟨[], s, rfl, hne, hinside, nofun, hright⟩
      · obtain ⟨before, after, rfl, hbetween⟩ := ih h
        exact ⟨t' ++ before, after, by simp, hbetween.append (hbetween.not_head hright) t'⟩
  · rintro ⟨before, after, rfl, hbetween⟩
    rw [List.append_assoc, runs_append (.inl hbetween.left),
      runs_run hbetween.nonempty hbetween.inside hbetween.right]
    exact List.mem_append_right _ List.mem_cons_self

/-! ### Replacing runs -/

section Map
variable {f : List α → List α}

@[simp] theorem mapRuns_nil : mapRuns p f [] = [] := by rw [mapRuns]

theorem mapRuns_cons (hc : p c = false) : mapRuns p f (c :: s) = c :: mapRuns p f s := by
  rw [mapRuns, if_neg (by simp [hc])]

theorem mapRuns_run (hne : t ≠ []) (hinside : ∀ c ∈ t, p c = true)
    (hright : ∀ c ∈ s.head?, p c = false) : mapRuns p f (t ++ s) = f t ++ mapRuns p f s := by
  obtain ⟨c, rest, rfl⟩ := List.exists_cons_of_ne_nil hne
  have hc := hinside c List.mem_cons_self
  obtain ⟨htake, hdrop⟩ := cut_run hinside hright
  rw [List.cons_append] at htake hdrop ⊢
  rw [List.dropWhile_cons_of_pos hc] at hdrop
  rw [mapRuns, if_pos hc, htake, hdrop]

theorem mapRuns_eq_self (h : ∀ t ∈ runs p s, f t = t) : mapRuns p f s = s := by
  induction s using induction (p := p) with
  | nil => exact mapRuns_nil
  | cons c s hc ih =>
    rw [runs_cons hc] at h
    rw [mapRuns_cons hc, ih h]
  | run t s hne hinside hright ih =>
    rw [runs_run hne hinside hright] at h
    rw [mapRuns_run hne hinside hright, h t List.mem_cons_self,
      ih fun t' ht' => h t' (List.mem_cons_of_mem _ ht')]

theorem head_mapRuns (h : ∀ c ∈ s.head?, p c = false) : (mapRuns p f s).head? = s.head? := by
  cases s with
  | nil => rw [mapRuns_nil]
  | cons c s => rw [mapRuns_cons (h c rfl)]; rfl

theorem runs_mapRuns (p : α → Bool) (f : List α → List α) (s : List α) :
    runs p (mapRuns p f s) = (runs p s).flatMap fun t => runs p (f t) := by
  induction s using induction (p := p) with
  | nil => simp
  | cons c s hc ih => rw [mapRuns_cons hc, runs_cons hc, runs_cons hc, ih]
  | run t s hne hinside hright ih =>
    have hhead : ∀ c ∈ (mapRuns p f s).head?, p c = false := by
      rw [head_mapRuns hright]
      exact hright
    rw [mapRuns_run hne hinside hright, runs_append (.inr hhead), ih,
      runs_run hne hinside hright, List.flatMap_cons]

end Map

end Stretch
