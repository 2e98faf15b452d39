import ScreenEffects.Act

/-!
# What acts leave behind

An act leaves a state behind also where it fails (`Act.after`). A property that holds of it whenever
it held before is kept by the act (`Act.Keeps`); what is kept by two acts is kept by one after the
other, and what is kept of a part is kept of the whole.

* `Act.Leads`, `Act.Brings` : what holds after an act, by what held before; `Brings` tells success from
  failure.
* `keeps_foldEach_map`, `map_after_forEach`, `map_threadList` : operations on the elements of a list
  that keep a value of each element keep the list of these values.
-/

namespace ScreenEffects

namespace Act

variable {σ τ ρ α β κ : Type}

/-- The state that an act leaves behind, whether it failed or not. -/
def after (act : Act σ α) (s : σ) : σ :=
  match act s with
  | .ok _ s => s
  | .error _ s => s

theorem after_congr {act act' : Act σ α} {s s' : σ} (h : act s = act' s') :
    act.after s = act'.after s' := by
  unfold after
  rw [h]

/-- The property `I` holds after the act if it held before, also where the act fails. -/
def Keeps (I : σ → Prop) (act : Act σ α) : Prop := ∀ s, I s → I (act.after s)

theorem bind_apply (act : Act σ α) (next : α → Act σ β) (s : σ) :
    (act >>= next) s = match act s with
      | .ok a t => next a t
      | .error e t => .error e t := by
  have e : (act >>= next) s = EStateM.bind act next s := rfl
  rw [e, EStateM.bind]
  cases act s <;> rfl

section Keeps

variable {I : σ → Prop}

theorem keeps_pure (a : α) : Keeps I (pure a : Act σ α) := fun _ h => h

theorem keeps_throw (e : Fault) : Keeps I (throw e : Act σ α) := fun _ h => h

theorem keeps_get : Keeps I (get : Act σ σ) := fun _ h => h

theorem keeps_modify {f : σ → σ} (h : ∀ s, I s → I (f s)) : Keeps I (modify f : Act σ PUnit) := h

theorem Keeps.of_eq_ok {act : Act σ α} (h : Keeps I act) {a : α} {s t : σ} (ha : act s = .ok a t)
    (hs : I s) : I t := by
  have hk := h s hs
  unfold after at hk
  rwa [ha] at hk

/-- If `I` holds before the act, then `J` holds after it, also where the act fails. -/
def Leads (I J : σ → Prop) (act : Act σ α) : Prop := ∀ s, I s → J (act.after s)

theorem Keeps.leads {act : Act σ α} (h : Keeps I act) : Leads I I act := h

/-- If an act fails, then what holds after it is to be enough. -/
theorem Leads.bind {J K : σ → Prop} {act : Act σ α} {next : α → Act σ β} (h : Leads I J act)
    (weaken : ∀ {s}, J s → K s) (hn : ∀ a, Leads J K (next a)) : Leads I K (act >>= next) := by
  intro s hs
  have h₁ : J (act.after s) := h s hs
  unfold after at h₁ ⊢
  rw [bind_apply]
  cases ha : act s with
  | ok a t =>
    rw [ha] at h₁
    exact hn a t h₁
  | error f t =>
    rw [ha] at h₁
    exact weaken h₁

theorem Keeps.bind {act : Act σ α} {next : α → Act σ β} (h : Keeps I act)
    (hn : ∀ a, Keeps I (next a)) : Keeps I (act >>= next) :=
  Leads.bind h id hn

theorem keeps_get_bind {next : σ → Act σ α} (h : ∀ s, I s → Keeps I (next s)) :
    Keeps I (get >>= next) := fun s hs => h s hs s hs

/-- From a state with `I` the act ends with a value and a state in `J`, or it fails in a state with
`E`. -/
def Brings (I : σ → Prop) (J : α → σ → Prop) (E : σ → Prop) (act : Act σ α) : Prop :=
  ∀ s, I s → match act s with
    | .ok a t => J a t
    | .error _ t => E t

theorem Keeps.brings {act : Act σ α} (h : Keeps I act) : Brings I (fun _ => I) I act := by
  intro s hs
  have kept := h s hs
  unfold after at kept
  cases ha : act s <;> rw [ha] at kept <;> exact kept

theorem Brings.mono {act : Act σ α} {J J' : α → σ → Prop} {E E' : σ → Prop} (h : Brings I J E act)
    (hJ : ∀ a s, J a s → J' a s) (hE : ∀ s, E s → E' s) : Brings I J' E' act := by
  intro s hs
  have brought := h s hs
  cases ha : act s <;> rw [ha] at brought
  · exact hJ _ _ brought
  · exact hE _ brought

theorem Brings.after {act : Act σ α} {K : σ → Prop} (h : Brings I (fun _ => K) K act) :
    Leads I K act := by
  intro s hs
  have brought := h s hs
  unfold Act.after
  cases ha : act s <;> rw [ha] at brought <;> exact brought

theorem Brings.bind {J : α → σ → Prop} {K : β → σ → Prop} {E : σ → Prop} {act : Act σ α}
    {next : α → Act σ β} (h : Brings I J E act) (hn : ∀ a, Brings (J a) K E (next a)) :
    Brings I K E (act >>= next) := by
  intro s hs
  have first := h s hs
  rw [bind_apply]
  cases ha : act s with
  | ok a t =>
    rw [ha] at first
    exact hn a t first
  | error f t =>
    rw [ha] at first
    exact first

theorem brings_get {J : σ → σ → Prop} {E : σ → Prop} (h : ∀ s, I s → J s s) :
    Brings I J E (get : Act σ σ) := h

theorem brings_modify {J : PUnit → σ → Prop} {E : σ → Prop} {f : σ → σ}
    (h : ∀ s, I s → J ⟨⟩ (f s)) : Brings I J E (modify f : Act σ PUnit) := h

end Keeps

/-! ## Acts that succeed -/

theorem bind_eq_ok {act : Act σ α} {next : α → Act σ β} {s s' : σ} {b : β} :
    (act >>= next) s = .ok b s' ↔ ∃ a t, act s = .ok a t ∧ next a t = .ok b s' := by
  rw [bind_apply]
  cases ha : act s with
  | ok a t =>
    refine ⟨fun h => ⟨a, t, rfl, h⟩, ?_⟩
    rintro ⟨a', t', h, hn⟩
    cases h
    exact hn
  | error e t => simp

/-- What comes after an act that succeeds goes on from its result. -/
theorem bind_of_eq_ok {act : Act σ α} {s t : σ} {a : α} (h : act s = .ok a t)
    (next : α → Act σ β) : (act >>= next) s = next a t := by
  rw [bind_apply, h]

theorem pure_eq_ok {a b : α} {s s' : σ} : (pure a : Act σ α) s = .ok b s' ↔ b = a ∧ s' = s := by
  have e : (pure a : Act σ α) s = .ok a s := rfl
  rw [e, EStateM.Result.ok.injEq, eq_comm, @eq_comm _ s]

theorem throw_ne_ok {e : Fault} {a : α} {s s' : σ} : (throw e : Act σ α) s ≠ .ok a s' := nofun

theorem get_eq_ok {a s s' : σ} : (get : Act σ σ) s = .ok a s' ↔ a = s ∧ s' = s :=
  pure_eq_ok (a := s)

theorem get_bind_apply (next : σ → Act σ α) (s : σ) : ((get : Act σ σ) >>= next) s = next s s := rfl

theorem modify_eq_ok {f : σ → σ} {a : PUnit} {s s' : σ} :
    (modify f : Act σ PUnit) s = .ok a s' ↔ s' = f s :=
  (pure_eq_ok (a := a) (s := f s)).trans (and_iff_right rfl)

/-! ## Acts that fail -/

theorem bind_eq_error {act : Act σ α} {next : α → Act σ β} {s s' : σ} {e : Fault} :
    (act >>= next) s = .error e s' ↔
      act s = .error e s' ∨ ∃ a t, act s = .ok a t ∧ next a t = .error e s' := by
  rw [bind_apply]
  cases ha : act s with
  | ok a t =>
    refine ⟨fun h => .inr ⟨a, t, rfl, h⟩, ?_⟩
    rintro (h | ⟨a', t', h, hn⟩) <;> cases h
    exact hn
  | error f t => simp

/-- The act fails on the state `s`. -/
def fails (act : Act σ α) (s : σ) : Bool :=
  match act s with
  | .ok _ _ => false
  | .error _ _ => true

theorem exists_of_fails {act : Act σ α} {s : σ} (h : act.fails s = true) :
    ∃ e t, act s = .error e t := by
  unfold fails at h
  cases ha : act s with
  | ok a t =>
    rw [ha] at h
    cases h
  | error e t => exact ⟨e, t, rfl⟩

theorem exists_of_not_fails {act : Act σ α} {s : σ} (h : act.fails s = false) :
    ∃ a t, act s = .ok a t := by
  unfold fails at h
  cases ha : act s with
  | ok a t => exact ⟨a, t, rfl⟩
  | error e t =>
    rw [ha] at h
    cases h

theorem pure_ne_error {a : α} {e : Fault} {s s' : σ} : (pure a : Act σ α) s ≠ .error e s' := nofun

theorem bind_pure_eq_error {act : Act σ α} {f : α → β} {s s' : σ} {e : Fault} :
    (act >>= fun a => pure (f a)) s = .error e s' ↔ act s = .error e s' := by
  rw [bind_eq_error]
  exact or_iff_left fun ⟨_, _, _, h⟩ => pure_ne_error h

theorem after_bind (act : Act σ α) (next : α → Act σ β) (s : σ) :
    (act >>= next).after s = match act s with
      | .ok a t => (next a).after t
      | .error _ t => t := by
  unfold after
  rw [bind_apply]
  cases act s <;> rfl

theorem after_bind_pure (act : Act σ α) (f : α → β) (s : σ) :
    (act >>= fun a => pure (f a)).after s = act.after s := by
  rw [after_bind, after]
  cases act s <;> rfl

/-! ## Acts on a part of the state -/

theorem onSecond_eq_ok {act : Act τ α} {a : α} {s : σ} {t : τ} {x : σ × τ} :
    act.onSecond (s, t) = .ok a x ↔ ∃ t', act t = .ok a t' ∧ x = (s, t') := by
  cases h : act t with
  | ok b t' =>
    simp only [onSecond, h, EStateM.Result.ok.injEq]
    constructor
    · rintro ⟨rfl, rfl⟩
      exact ⟨t', ⟨rfl, rfl⟩, rfl⟩
    · rintro ⟨_, ⟨rfl, rfl⟩, rfl⟩
      exact ⟨rfl, rfl⟩
  | error e t' => simp [onSecond, h]

theorem within_eq_ok {get : ρ → σ} {put : ρ → σ → ρ} {act : Act (σ × τ) α} {a : α} {r : ρ} {t : τ}
    {x : ρ × τ} :
    act.within get put (r, t) = .ok a x ↔
      ∃ s' t', act (get r, t) = .ok a (s', t') ∧ x = (put r s', t') := by
  cases h : act (get r, t) with
  | ok b y =>
    simp only [within, h, EStateM.Result.ok.injEq]
    constructor
    · rintro ⟨rfl, rfl⟩
      exact ⟨y.1, y.2, ⟨rfl, rfl⟩, rfl⟩
    · rintro ⟨s', t', ⟨rfl, rfl⟩, rfl⟩
      exact ⟨rfl, rfl⟩
  | error e y => simp [within, h]

theorem onFirst_of_error {act : Act σ α} {s s' : σ} {e : Fault} (h : act s = .error e s') (t : τ) :
    act.onFirst (s, t) = .error e (s', t) := by
  simp only [onFirst, h]

theorem after_onFirst (act : Act σ α) (s : σ) (t : τ) :
    (act.onFirst : Act (σ × τ) α).after (s, t) = (act.after s, t) := by
  cases h : act s <;> simp only [after, onFirst, h]

theorem after_onSecond (act : Act τ α) (s : σ) (t : τ) :
    (act.onSecond : Act (σ × τ) α).after (s, t) = (s, act.after t) := by
  cases h : act t <;> simp only [after, onSecond, h]

theorem after_within (get : ρ → σ) (put : ρ → σ → ρ) (act : Act (σ × τ) α) (r : ρ) (t : τ) :
    (act.within get put).after (r, t) =
      (put r (act.after (get r, t)).1, (act.after (get r, t)).2) := by
  cases h : act (get r, t) <;> simp only [after, within, h]

theorem after_ensuring (act : Act σ α) (f : σ → σ) (s : σ) :
    (act.ensuring f).after s = f (act.after s) := by
  cases h : act s <;> simp only [after, ensuring, h]

theorem Keeps.onFirst {I : σ → Prop} {act : Act σ α} (h : Keeps I act) :
    Keeps (fun x : σ × τ => I x.1) act.onFirst := by
  rintro ⟨s, t⟩ hs
  rw [after_onFirst]
  exact h s hs

theorem keeps_onSecond {I : σ → Prop} (act : Act τ α) :
    Keeps (fun x : σ × τ => I x.1) act.onSecond := by
  rintro ⟨s, t⟩ hs
  rwa [after_onSecond]

theorem Keeps.onSecond {J : τ → Prop} {act : Act τ α} (h : Keeps J act) :
    Keeps (fun x : σ × τ => J x.2) act.onSecond := by
  rintro ⟨s, t⟩ ht
  rw [after_onSecond]
  exact h t ht

theorem Keeps.onFirst_and {I : σ → Prop} {J : τ → Prop} {act : Act σ α} (h : Keeps I act) :
    Keeps (fun x : σ × τ => I x.1 ∧ J x.2) act.onFirst := by
  rintro ⟨s, t⟩ ⟨hs, ht⟩
  rw [after_onFirst]
  exact ⟨h s hs, ht⟩

theorem Keeps.and_onSecond {I : σ → Prop} {J : τ → Prop} {act : Act τ α} (h : Keeps J act) :
    Keeps (fun x : σ × τ => I x.1 ∧ J x.2) act.onSecond := by
  rintro ⟨s, t⟩ ⟨hs, ht⟩
  rw [after_onSecond]
  exact ⟨hs, h t ht⟩

/-! ## Lists -/

theorem foldEach_nil_eq_ok {act : β → Act (α × τ) β} {b b' : β} {as' : List α} {t t' : τ} :
    foldEach act b ([], t) = .ok b' (as', t') ↔ b' = b ∧ as' = [] ∧ t' = t := by
  simp only [foldEach, EStateM.Result.ok.injEq, Prod.mk.injEq]
  rw [eq_comm, @eq_comm _ [], @eq_comm _ t]

theorem foldEach_cons_eq_ok {act : β → Act (α × τ) β} {b b' : β} {a : α} {as as' : List α}
    {t t' : τ} :
    foldEach act b (a :: as, t) = .ok b' (as', t') ↔
      ∃ b₁ a₁ t₁ as₁, act b (a, t) = .ok b₁ (a₁, t₁) ∧
        foldEach act b₁ (as, t₁) = .ok b' (as₁, t') ∧ as' = a₁ :: as₁ := by
  cases ha : act b (a, t) with
  | error e x => simp [foldEach, ha]
  | ok b₁ x =>
    cases has : foldEach act b₁ (as, x.2) with
    | error e y =>
      simp only [foldEach, ha, has]
      constructor
      · intro h
        cases h
      · rintro ⟨_, _, _, _, h, hs, -⟩
        cases h
        rw [has] at hs
        cases hs
    | ok b₂ y =>
      simp only [foldEach, ha, has, EStateM.Result.ok.injEq, Prod.mk.injEq]
      constructor
      · rintro ⟨rfl, rfl, rfl⟩
        exact ⟨b₁, x.1, x.2, y.1, ⟨rfl, rfl⟩, has, rfl⟩
      · rintro ⟨_, _, _, _, ⟨rfl, rfl⟩, hs, rfl⟩
        rw [has] at hs
        cases hs
        exact ⟨rfl, rfl, rfl⟩

theorem after_foldEach_nil (act : β → Act (α × τ) β) (b : β) (t : τ) :
    (foldEach act b).after ([], t) = ([], t) := by
  simp only [after, foldEach]

/-- What an act on a list leaves of the shared state. -/
theorem snd_after_foldEach_cons (act : β → Act (α × τ) β) (b : β) (a : α) (as : List α) (t : τ) :
    ((foldEach act b).after (a :: as, t)).2 = match act b (a, t) with
      | .ok b' x => ((foldEach act b').after (as, x.2)).2
      | .error _ x => x.2 := by
  unfold after
  rw [foldEach]
  cases act b (a, t) with
  | error e x => rfl
  | ok b' x =>
    simp only
    cases foldEach act b' (as, x.2) <;> rfl

/-- What an act keeps of each element, a key of it included, and of the shared state is kept by the
act on a list. -/
theorem keeps_foldEach_map (key : α → κ) {A : α → Prop} {I : τ → Prop} {act : β → Act (α × τ) β}
    (h : ∀ k b, Keeps (fun x => (key x.1 = k ∧ A x.1) ∧ I x.2) (act b)) (ks : List κ) (b : β) :
    Keeps (fun x : List α × τ => (x.1.map key = ks ∧ ∀ a ∈ x.1, A a) ∧ I x.2)
      (foldEach act b) := by
  rintro ⟨as, t⟩ ⟨⟨hk, has⟩, ht⟩
  induction as generalizing b t ks with
  | nil =>
    rw [after_foldEach_nil]
    exact ⟨⟨hk, has⟩, ht⟩
  | cons a as ih =>
    obtain ⟨ha, has⟩ := List.forall_mem_cons.1 has
    subst hk
    have first := h (key a) b (a, t) ⟨⟨rfl, ha⟩, ht⟩
    unfold after at first ⊢
    unfold foldEach
    cases hx : act b (a, t) with
    | error e x =>
      rw [hx] at first
      exact ⟨⟨congrArg (· :: _) first.1.1, List.forall_mem_cons.2 ⟨first.1.2, has⟩⟩, first.2⟩
    | ok b' x =>
      rw [hx] at first
      have others := ih (as.map key) b' x.2 first.2 rfl has
      unfold after at others
      simp only
      cases hy : foldEach act b' (as, x.2) <;> rw [hy] at others <;>
        exact ⟨⟨by simp only [List.map_cons, first.1.1, others.1.1],
          List.forall_mem_cons.2 ⟨first.1.2, others.1.2⟩⟩, others.2⟩

theorem map_after_foldEach {key : α → κ} {act : β → Act (α × τ) β}
    (h : ∀ b x, key ((act b).after x).1 = key x.1) (b : β) (as : List α) (t : τ) :
    ((foldEach act b).after (as, t)).1.map key = as.map key :=
  (keeps_foldEach_map key (A := fun _ => True) (I := fun _ => True)
    (fun _ b x hx => ⟨⟨(h b x).trans hx.1.1, trivial⟩, trivial⟩) (as.map key) b (as, t)
    ⟨⟨rfl, fun _ _ => trivial⟩, trivial⟩).1.1

/-- What an act keeps of each element and of the shared state is kept by the act on a list. -/
theorem keeps_foldEach {A : α → Prop} {I : τ → Prop} {act : β → Act (α × τ) β}
    (h : ∀ b, Keeps (fun x => A x.1 ∧ I x.2) (act b)) (b : β) :
    Keeps (fun x : List α × τ => (∀ a ∈ x.1, A a) ∧ I x.2) (foldEach act b) := by
  rintro ⟨as, t⟩ ⟨has, ht⟩
  have kept := keeps_foldEach_map (fun _ => ()) (A := A) (I := I)
    (fun _ b x hx => ⟨⟨rfl, (h b x ⟨hx.1.2, hx.2⟩).1⟩, (h b x ⟨hx.1.2, hx.2⟩).2⟩)
    (as.map fun _ => ()) b (as, t) ⟨⟨rfl, has⟩, ht⟩
  exact ⟨kept.1.2, kept.2⟩

theorem keeps_forEach {A : α → Prop} {I : τ → Prop} {act : Act (α × τ) Unit}
    (h : Keeps (fun x => A x.1 ∧ I x.2) act) :
    Keeps (fun x : List α × τ => (∀ a ∈ x.1, A a) ∧ I x.2) (forEach act) :=
  keeps_foldEach (fun _ => h) ()

theorem fst_after_forEach_singleton (act : Act (α × τ) Unit) (a : α) (t : τ) :
    ((forEach act).after ([a], t)).1 = [(act.after (a, t)).1] := by
  unfold forEach after
  rw [foldEach]
  cases act (a, t) <;> simp only [foldEach]

theorem map_after_forEach {key : α → κ} {act : Act (α × τ) Unit}
    (h : ∀ x, key (act.after x).1 = key x.1) (as : List α) (t : τ) :
    ((forEach act).after (as, t)).1.map key = as.map key :=
  map_after_foldEach (fun _ => h) () as t

end Act

theorem map_threadList {α σ κ : Type} {key : α → κ} {f : α → σ → α × σ}
    (h : ∀ a s, key (f a s).1 = key a) (as : List α) (s : σ) :
    (threadList f as s).1.map key = as.map key := by
  induction as generalizing s with
  | nil => rfl
  | cons a as ih =>
    rw [threadList, List.map_cons, List.map_cons, h, ih]

/-- What an operation keeps of the state is kept by the operation on a whole list. -/
theorem keeps_threadList {α σ : Type} {I : σ → Prop} {f : α → σ → α × σ}
    (h : ∀ a s, I s → I (f a s).2) (as : List α) {s : σ} (hs : I s) : I (threadList f as s).2 := by
  induction as generalizing s with
  | nil => exact hs
  | cons a as ih => exact ih (h a s hs)

/-- What an operation makes of each element it makes of the elements of a list. -/
theorem forall_mem_threadList {α σ : Type} {A B : α → Prop} {f : α → σ → α × σ}
    (h : ∀ a s, A a → B (f a s).1) {as : List α} (ha : ∀ a ∈ as, A a) (s : σ) :
    ∀ b ∈ (threadList f as s).1, B b := by
  induction as generalizing s with
  | nil => exact List.forall_mem_nil B
  | cons a as ih =>
    obtain ⟨ha, has⟩ := List.forall_mem_cons.1 ha
    exact List.forall_mem_cons.2 ⟨h a s ha, ih has _⟩

theorem exists_mem_threadList {α σ : Type} (f : α → σ → α × σ) {as : List α} {a : α} (ha : a ∈ as)
    (s : σ) : ∃ t, (f a t).1 ∈ (threadList f as s).1 := by
  induction as generalizing s with
  | nil => cases ha
  | cons b as ih =>
    rcases List.mem_cons.1 ha with rfl | ha
    · exact ⟨s, List.mem_cons_self⟩
    · obtain ⟨t, ht⟩ := ih ha (f b s).2
      exact ⟨t, List.mem_cons_of_mem _ ht⟩

/-- Lists that agree on which elements have a property have it everywhere or neither has. -/
theorem forall_mem_of_map_eq {α : Type} {A : α → Prop} {as bs : List α} (h : as.map A = bs.map A)
    (hb : ∀ b ∈ bs, A b) : ∀ a ∈ as, A a := by
  intro a ha
  obtain ⟨b, mem, same⟩ := List.mem_map.1 (h ▸ List.mem_map_of_mem ha)
  exact same ▸ hb b mem

/-! ## One element of a list -/

/-- Only the element at its place has to be looked at. -/
theorem forall_mem_modify_of_getElem? {α : Type} {A : α → Prop} {f : α → α} {as : List α} {i : Nat}
    (ha : ∀ a ∈ as, A a) (h : ∀ a, as[i]? = some a → A a → A (f a)) : ∀ a ∈ as.modify i f, A a := by
  intro a mem
  obtain ⟨j, hj, rfl⟩ := List.mem_iff_getElem.1 mem
  rw [List.length_modify] at hj
  rw [List.getElem_modify]
  split
  · rename_i same
    exact h _ (same ▸ List.getElem?_eq_getElem hj) (ha _ (List.getElem_mem hj))
  · exact ha _ (List.getElem_mem hj)

theorem forall_mem_modify {α : Type} {A : α → Prop} {f : α → α} (h : ∀ a, A a → A (f a)) {as : List α}
    (ha : ∀ a ∈ as, A a) (i : Nat) : ∀ a ∈ as.modify i f, A a :=
  forall_mem_modify_of_getElem? ha fun a _ => h a

theorem map_modify {α κ : Type} {key : α → κ} {f : α → α} {as : List α}
    (h : ∀ a ∈ as, key (f a) = key a) (i : Nat) : (as.modify i f).map key = as.map key := by
  induction as generalizing i with
  | nil => rw [List.modify_nil]
  | cons a as ih =>
    obtain ⟨ha, has⟩ := List.forall_mem_cons.1 h
    cases i with
    | zero => rw [List.modify_zero_cons, List.map_cons, List.map_cons, ha]
    | succ i => rw [List.modify_succ_cons, List.map_cons, List.map_cons, ih has]

end ScreenEffects
