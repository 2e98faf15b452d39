import ScreenEffects.Proofs.Pipeline.Account
import ScreenEffects.Proofs.Pipeline.Lasting

/-!
# Accounts in a run

What a pipeline and its passes own lives on the device, and nothing else does, as long as nobody else
uses the device: at each moment of a run, however often passes join and leave, are disposed of and set
up again, and whatever fails on the way. `Rig.Accounts` is this balance for a rig; `Rig.Event` adds to
the operations of a rig what a program may do with a single pass.

* `Rig.accounts_perform` : an event keeps the balance.
* `Rig.accounts_follow` : so does a run.
* `Rig.resources_follow` : what lives at each moment of a run, and that nothing does once the pipeline
  has come to its end and all passes are disposed of.
-/

namespace ScreenEffects

variable {H Q ω : Type} {theirs : ω → Multiset Resource} {m r r' : Multiset Resource}

/-- A list with one entry changed, up to order. -/
theorem modify_perm_cons_eraseIdx {α : Type} {as : List α} {i : Nat} {a : α} (h : as[i]? = some a)
    (f : α → α) : (as.modify i f).Perm (f a :: as.eraseIdx i) := by
  obtain ⟨inside, rfl⟩ := List.getElem?_eq_some_iff.1 h
  rw [List.modify_eq_set_getElem?, h]
  exact List.set_perm_cons_eraseIdx inside _

theorem perm_cons_eraseIdx {α : Type} {as : List α} {i : Nat} {a : α} (h : as[i]? = some a) :
    as.Perm (a :: as.eraseIdx i) := by
  obtain ⟨inside, rfl⟩ := List.getElem?_eq_some_iff.1 h
  exact (List.getElem_cons_eraseIdx_perm inside).symm

/-- What a list of passes owns is what one of them owns and what the others own. -/
theorem passResources_eraseIdx {qs : List (AnyPass H Q)} {i : Nat} {q : AnyPass H Q}
    (h : qs[i]? = some q) : passResources qs = q.resources + passResources (qs.eraseIdx i) := by
  rw [passResources_perm (perm_cons_eraseIdx h), passResources_cons]

theorem passResources_modify {f : AnyPass H Q → AnyPass H Q} (h : ∀ q, (f q).owned = q.owned)
    (qs : List (AnyPass H Q)) (i : Nat) : passResources (qs.modify i f) = passResources qs := by
  have same (q : AnyPass H Q) : (f q).resources = q.resources := congrArg resourcesOf (h q)
  exact passResources_congr (map_modify (fun q _ => same q) i)

theorem passResources_eq_zero {qs : List (AnyPass H Q)} (h : ∀ q ∈ qs, q.owned = []) :
    passResources qs = 0 := by
  rw [passResources_eq, List.flatMap_eq_nil_iff.2 h, resourcesOf_nil]

namespace Pipeline

/-- The pipeline has its accounts in order, be it that it has come to its end: what it owns, and the
rest `m`, lives besides what is theirs. -/
def Accounts (theirs : ω → Multiset Resource) (m : Multiset Resource)
    (x : Pipeline (AnyPass H Q) × Stage ω) : Prop :=
  Tended theirs m x ∨ Ended theirs m x

variable {p : Pipeline (AnyPass H Q)} {s s' : Stage ω}

/-- What others own comes and goes without the pipeline. -/
theorem Accounts.exchange (h : Accounts theirs (r + m) (p, s))
    (hs : ∀ rest, s.Owns theirs (r + rest) → s'.Owns theirs (r' + rest)) :
    Accounts theirs (r' + m) (p, s') := by
  rcases h with h | h
  · refine .inl ⟨h.alive, ?_⟩
    have owns := h.owns
    rw [add_left_comm] at owns ⊢
    exact hs _ owns
  · exact .inr ⟨h.disposed, h.passes, h.depthTexture, hs m h.owns⟩

theorem Accounts.onStage (h : Accounts theirs m (p, s)) (steady : s.Steady theirs s') :
    Accounts theirs m (p, s') := by
  rw [← zero_add m] at h ⊢
  exact h.exchange fun rest => steady (0 + rest)

end Pipeline

namespace Rig

open Pipeline

/-! ## Events -/

/-- What can happen to a rig, when a program deals with single passes too. -/
inductive Event (H Q ω : Type)
  | op (op : Op H Q ω)
  /-- Dispose of a pass, which stays where it is. -/
  | disposePass (place : Place)
  /-- Whatever a pass lets a program do with it. -/
  | adjust (place : Place) (f : AnyPass H Q → AnyPass H Q)

section Events

variable [EffectHooks H ω] [Pass Q ω]

/-- Dispose of the pass at a place. -/
def disposePass (place : Place) (x : Rig H Q ω) : Rig H Q ω :=
  match x.at? place with
  | none => x
  | some q =>
    let (q, s) := Pass.dispose q x.stage
    { x.change (fun _ => q) place with stage := s }

/-- What an event makes of a rig. -/
def Event.perform : Event H Q ω → Rig H Q ω → Rig H Q ω
  | .op operation, x => operation.perform x
  | .disposePass place, x => x.disposePass place
  | .adjust place f, x => x.change f place

/-- The rig after some events. -/
def follow : List (Event H Q ω) → Rig H Q ω → Rig H Q ω
  | [], x => x
  | e :: es, x => follow es (e.perform x)

/-- A pass that is made is fresh, what the rest of the program does is its own affair, and nobody
reaches for the surfaces of a pass. -/
def Event.Honest (theirs : ω → Multiset Resource) (x : Rig H Q ω) : Event H Q ω → Prop
  | .op (.make q) => q.owned = []
  | .op (.elsewhere s) => x.stage.Steady theirs s
  | .adjust _ f => ∀ q, (f q).owned = q.owned
  | _ => True

/-- Each event of a run is honest. -/
def Honest (theirs : ω → Multiset Resource) : List (Event H Q ω) → Rig H Q ω → Prop
  | [], _ => True
  | e :: es, x => e.Honest theirs x ∧ Honest theirs es (e.perform x)

end Events

/-! ## The balance -/

/-- What the pipeline and its passes own, and what loose passes own, lives besides what is theirs. -/
def Accounts (theirs : ω → Multiset Resource) (x : Rig H Q ω) : Prop :=
  Pipeline.Accounts theirs (passResources x.loose) (x.pipeline, x.stage)

variable {x : Rig H Q ω}

theorem Accounts.change (h : x.Accounts theirs) {f : AnyPass H Q → AnyPass H Q}
    (keeps : ∀ q, (f q).owned = q.owned) (place : Place) : (x.change f place).Accounts theirs := by
  cases place with
  | listed i =>
    rcases h with h | h
    · exact .inl (h.steady (passResources_modify keeps _ i) (.refl theirs x.stage))
    · refine .inr { h with passes := ?_ }
      change x.pipeline.passes.modify i f = []
      rw [show x.pipeline.passes = [] from h.passes, List.modify_nil]
  | loose i =>
    unfold Accounts Rig.change
    simp only [passResources_modify keeps]
    exact h

variable [EffectHooks H ω] [Pass Q ω]

theorem disposePass_eq {place : Place} {q : AnyPass H Q} (h : x.at? place = some q) :
    x.disposePass place = { x.change (fun _ => (Pass.dispose q x.stage).1) place with
      stage := (Pass.dispose q x.stage).2 } := by
  unfold disposePass
  rw [h]

variable (tidy : TidyProgram theirs H Q)

include tidy

theorem Accounts.add (h : x.Accounts theirs) (i : Nat) (index : Option Nat) :
    (x.add i index).Accounts theirs := by
  unfold Rig.add
  cases hq : x.loose[i]? with
  | none => exact h
  | some q =>
    obtain ⟨inside, rfl⟩ := List.getElem?_eq_some_iff.1 hq
    have perm := List.getElem_cons_eraseIdx_perm inside
    unfold Accounts
    rcases h with h | h
    · rw [passResources_perm perm.symm, passResources_cons] at h
      have added := h.add tidy index
      left
      simp only
      cases hr : (x.pipeline.add x.loose[i] index x.stage).refused with
      | none => simpa [hr] using added
      | some back =>
        simp only
        rw [passResources_perm (List.set_perm_cons_eraseIdx inside _), passResources_cons]
        simpa [hr] using added
    · have refused : x.pipeline.add x.loose[i] index x.stage =
          ⟨x.pipeline, x.stage, some (.disposed "EffectComposer", x.loose[i])⟩ := by
        unfold Pipeline.add
        exact if_pos h.disposed
      simp only [refused, List.set_getElem_self]
      exact .inr h

theorem Accounts.remove (h : x.Accounts theirs) (index : Nat) :
    (x.remove index).Accounts theirs := by
  unfold Rig.remove Pipeline.remove
  cases hq : x.pipeline.passes[index]? with
  | none =>
    simp only [hq]
    exact h
  | some q =>
    simp only [hq]
    obtain ⟨inside, rfl⟩ := List.getElem?_eq_some_iff.1 hq
    rcases h with h | h
    · have left := h.release tidy (List.getElem_cons_eraseIdx_perm inside).symm
      refine .inl ?_
      simp only [passResources_append, passResources_cons, passResources_nil, add_zero]
      rwa [add_comm]
    · have none_left : x.pipeline.passes = [] := h.passes
      simp [none_left] at inside

theorem Accounts.removeAll (h : x.Accounts theirs) :
    Accounts theirs ⟨(x.pipeline.removeAll x.stage).2.1,
      x.loose ++ (x.pipeline.removeAll x.stage).1, (x.pipeline.removeAll x.stage).2.2⟩ := by
  unfold Accounts
  simp only [passResources_append]
  rcases h with h | h
  · rw [add_comm]
    exact .inl (h.removeAll tidy)
  · have none_left : x.pipeline.passes = [] := h.passes
    right
    simpa [Pipeline.removeAll, none_left, Pipeline.removeFirst] using h

theorem Accounts.dispose (h : x.Accounts theirs) :
    Accounts theirs { x with
      pipeline := (x.pipeline.dispose x.stage).2.1, stage := (x.pipeline.dispose x.stage).2.2 } := by
  rcases h with h | h
  · exact .inr (h.dispose tidy)
  · have ended : x.pipeline.dispose x.stage = ([], x.pipeline, x.stage) := by
      unfold Pipeline.dispose
      exact if_pos h.disposed
    rw [ended]
    exact .inr h

theorem Accounts.disposePass (h : x.Accounts theirs) (place : Place) :
    (x.disposePass place).Accounts theirs := by
  cases hq : x.at? place with
  | none =>
    unfold Rig.disposePass
    rw [hq]
    exact h
  | some q =>
    rw [disposePass_eq hq]
    have gone : (Pass.dispose q x.stage).1.resources = 0 :=
      congrArg resourcesOf (q.owned_dispose x.stage)
    have paid (rest : Multiset Resource) (hr : x.stage.Owns theirs (q.resources + rest)) :
        (Pass.dispose q x.stage).2.Owns theirs ((Pass.dispose q x.stage).1.resources + rest) := by
      rw [gone, zero_add]
      exact q.owns_dispose tidy hr
    -- the others are where they were
    have changed {qs : List (AnyPass H Q)} {i : Nat} (h : qs[i]? = some q) :
        passResources (qs.modify i fun _ => (Pass.dispose q x.stage).1) =
          (Pass.dispose q x.stage).1.resources + passResources (qs.eraseIdx i) := by
      rw [passResources_perm (modify_perm_cons_eraseIdx h _), passResources_cons]
    cases place with
    | listed i =>
      rcases h with h | h
      · refine .inl ⟨h.alive, ?_⟩
        have owns : x.stage.Owns theirs
            (x.pipeline.resources + passResources x.pipeline.passes + passResources x.loose) :=
          h.owns
        rw [passResources_eraseIdx hq, add_left_comm, add_assoc] at owns
        change Stage.Owns theirs (x.pipeline.resources +
          passResources (x.pipeline.passes.modify i fun _ => (Pass.dispose q x.stage).1) +
            passResources x.loose) (Pass.dispose q x.stage).2
        rw [changed hq, add_left_comm, add_assoc]
        exact paid _ owns
      · have none_left : x.pipeline.passes = [] := h.passes
        simp [Rig.at?, none_left] at hq
    | loose i =>
      unfold Accounts at h ⊢
      rw [passResources_eraseIdx hq] at h
      simp only [Rig.change, changed hq]
      exact h.exchange paid

omit tidy [EffectHooks H ω] [Pass Q ω] in
theorem Accounts.act {α : Type} {f : Act (Pipeline (AnyPass H Q) × Stage ω) α}
    (h : x.Accounts theirs) (tended : ∀ m, Act.Keeps (Tended theirs m) f)
    (ended : ∀ x, x.1.disposed = true → f.after x = x) : (x.act f).Accounts theirs := by
  rcases h with h | h
  · exact .inl (tended _ _ h)
  · unfold Accounts Rig.act
    rw [ended _ h.disposed]
    exact .inr h

/-- An operation keeps the balance, failed or not. -/
theorem accounts_perform (h : x.Accounts theirs) {op : Op H Q ω}
    (honest : Event.Honest theirs x (.op op)) : (op.perform x).Accounts theirs := by
  have made {q : AnyPass H Q} (hq : q.owned = []) :
      passResources (x.loose ++ [q]) = passResources x.loose := by
    simp [AnyPass.resources, hq]
  cases op with
  | makeEffects camera effects config =>
    simp only [Op.perform]
    cases hc : EffectPass.create camera effects config x.stage.uniforms with
    | error e => exact h
    | ok y =>
      unfold Accounts
      simp only [made (q := .builtin (.effects y.1)) rfl]
      exact h.onStage ((Stage.Steady.refl theirs x.stage).still (.refl _) rfl)
  | make q =>
    unfold Accounts
    simp only [Op.perform, made honest]
    exact h
  | add i index => exact h.add tidy i index
  | remove index => exact h.remove tidy index
  | removeAll => exact h.removeAll tidy
  | setFlags place flags => exact h.change (fun q => q.owned_withFlags flags) place
  | edit place op => exact h.change (fun q => q.owned_edit op x.stage) place
  | setSize width height =>
    exact h.act (fun _ => keeps_tended_setSize tidy width height) fun x hx => by
      unfold Pipeline.setSize
      exact after_checkAlive_bind hx _
  | reset =>
    exact h.act (fun _ => keeps_tended_reset tidy) fun x hx => by
      unfold Pipeline.reset
      exact after_checkAlive_bind hx _
  | render delta =>
    exact h.act (fun _ => keeps_tended_render tidy delta) fun x hx => by
      unfold Pipeline.render
      exact after_checkAlive_bind hx _
  | dispose => exact h.dispose tidy
  | elsewhere s => exact h.onStage honest

theorem accounts_event (h : x.Accounts theirs) {e : Event H Q ω} (honest : e.Honest theirs x) :
    (e.perform x).Accounts theirs := by
  cases e with
  | op operation => exact accounts_perform tidy h honest
  | disposePass place => exact h.disposePass tidy place
  | adjust place f => exact h.change honest place

/-- A run keeps the balance. -/
theorem accounts_follow {es : List (Event H Q ω)} (h : x.Accounts theirs)
    (honest : Honest theirs es x) : (follow es x).Accounts theirs := by
  induction es generalizing x with
  | nil => exact h
  | cons e es ih => exact ih (accounts_event tidy h honest.1) honest.2

omit tidy [EffectHooks H ω] [Pass Q ω] in
/-- A run begins with nothing on the device but what is theirs. -/
theorem accounts_start {s : Stage ω} (h : s.device.Lives (theirs s.host))
    (config : PipelineConfig) : (start config s : Rig H Q ω).Accounts theirs := by
  have bare : s.Owns theirs 0 := by rwa [Stage.Owns, zero_add]
  exact .inl (tended_create bare config)

/-! ## What lives -/

omit tidy

/-- All surfaces of the pipeline, of its passes, and of loose passes. -/
def surfaces (x : Rig H Q ω) : List Surface :=
  (if x.pipeline.disposed then [] else [x.pipeline.input, x.pipeline.output]) ++
    (x.pipeline.passes ++ x.loose).flatMap AnyPass.owned

/-- The triangle of the pipeline. -/
def geometries (x : Rig H Q ω) : List Geometry :=
  if x.pipeline.disposed then [] else [x.pipeline.geometry]

omit [EffectHooks H ω] [Pass Q ω] in
/-- A balance, read as what lives. -/
theorem Accounts.lives (h : x.Accounts theirs) :
    x.stage.Owns theirs (resourcesOf x.surfaces +
      (x.pipeline.depthTexture.toList.map Resource.texture : Multiset Resource) +
      (x.geometries.map Resource.geometry : Multiset Resource)) := by
  have depth (t : Option Texture) : depthResources t =
      (t.toList.map Resource.texture : List Resource) := by cases t <;> rfl
  unfold surfaces geometries
  rcases h with h | h
  · have alive : x.pipeline.disposed = false := h.alive
    have owns : x.stage.Owns theirs
        (x.pipeline.resources + passResources x.pipeline.passes + passResources x.loose) := h.owns
    rw [resources, fixtures, depth, passResources_eq, passResources_eq] at owns
    rw [alive, if_neg Bool.false_ne_true, if_neg Bool.false_ne_true, List.flatMap_append]
    have sum (a b c e f g : Multiset Resource) : a + b + c + e + f + g =
        a + (b + (f + g)) + e + c := by abel
    rw [sum] at owns
    simpa using owns
  · have disposed : x.pipeline.disposed = true := h.disposed
    have none_left : x.pipeline.passes = [] := h.passes
    have absent : x.pipeline.depthTexture = none := h.depthTexture
    have owns : x.stage.Owns theirs (passResources x.loose) := h.owns
    rw [disposed, none_left, absent, if_pos rfl, if_pos rfl, List.nil_append, List.nil_append,
      ← passResources_eq]
    simpa using owns

/-! ## The end -/

/-- The event is part of the end: the pipeline comes to its end, or a loose pass is disposed of. -/
inductive Event.Ends : Event H Q ω → Prop
  | pipeline : Ends (.op .dispose)
  | pass (i : Nat) : Ends (.disposePass (.loose i))

/-- What an event of the end is for is done. -/
def Event.Done (x : Rig H Q ω) : Event H Q ω → Prop
  | .op .dispose => x.pipeline.disposed = true
  | .disposePass (.loose i) => ∀ q, x.loose[i]? = some q → q.owned = []
  | _ => True

variable {e e' : Event H Q ω}

theorem disposed_dispose (p : Pipeline (AnyPass H Q)) (s : Stage ω) :
    (p.dispose s).2.1.disposed = true := by
  unfold Pipeline.dispose
  split
  · assumption
  · rfl

theorem loose_disposePass (x : Rig H Q ω) (i : Nat) :
    (x.disposePass (.loose i)).loose = x.loose.modify i fun q => (Pass.dispose q x.stage).1 := by
  cases hq : x.at? (.loose i) with
  | none =>
    have outside : x.loose[i]? = none := hq
    unfold disposePass
    rw [hq, List.modify_eq_self (List.getElem?_eq_none_iff.1 outside)]
  | some q =>
    rw [disposePass_eq hq]
    refine List.ext_getElem? fun j => ?_
    have here : x.loose[i]? = some q := hq
    simp only [Rig.change, List.getElem?_modify]
    split
    · rename_i same
      subst same
      rw [here]
      rfl
    · rfl

theorem length_loose_of_ends (ends : e.Ends) : (e.perform x).loose.length = x.loose.length := by
  cases ends with
  | pipeline => rfl
  | pass i =>
    change (x.disposePass (.loose i)).loose.length = _
    rw [loose_disposePass, List.length_modify]

theorem Event.Ends.done (ends : e.Ends) (x : Rig H Q ω) : e.Done (e.perform x) := by
  cases ends with
  | pipeline => exact disposed_dispose x.pipeline x.stage
  | pass i =>
    intro q hq
    change (x.disposePass (.loose i)).loose[i]? = some q at hq
    rw [loose_disposePass, List.getElem?_modify_eq] at hq
    obtain ⟨r, -, rfl⟩ := Option.map_eq_some_iff.1 hq
    exact r.owned_dispose x.stage

theorem Event.Done.perform (done : e.Done x) (ends : e.Ends) (ends' : e'.Ends) :
    e.Done (e'.perform x) := by
  cases ends' with
  | pipeline =>
    cases ends with
    | pipeline => exact disposed_dispose x.pipeline x.stage
    | pass i => exact done
  | pass j =>
    cases ends with
    | pipeline =>
      change (x.disposePass (.loose j)).pipeline.disposed = true
      unfold Rig.disposePass
      split <;> exact done
    | pass i =>
      intro q hq
      change (x.disposePass (.loose j)).loose[i]? = some q at hq
      rw [loose_disposePass, List.getElem?_modify] at hq
      obtain ⟨r, hr, rfl⟩ := Option.map_eq_some_iff.1 hq
      split
      · exact r.owned_dispose x.stage
      · exact done r hr

/-- What is done in the end stays done until the end is over. -/
theorem follow_ends {es : List (Event H Q ω)} (ends : ∀ e ∈ es, e.Ends) (x : Rig H Q ω) :
    (follow es x).loose.length = x.loose.length ∧
      (∀ e : Event H Q ω, e.Ends → e.Done x → e.Done (follow es x)) ∧ ∀ e ∈ es, e.Done (follow es x) := by
  induction es generalizing x with
  | nil => exact ⟨rfl, fun _ _ done => done, fun _ he => absurd he List.not_mem_nil⟩
  | cons e es ih =>
    obtain ⟨first, others⟩ := List.forall_mem_cons.1 ends
    obtain ⟨length, stay, done⟩ := ih others (e.perform x)
    refine ⟨length.trans (length_loose_of_ends first), fun e' ends' done' => ?_, ?_⟩
    · exact stay e' ends' (done'.perform ends' first)
    · exact List.forall_mem_cons.2 ⟨stay e first (first.done x), done⟩

theorem honest_of_ends {es : List (Event H Q ω)} (ends : ∀ e ∈ es, e.Ends) (x : Rig H Q ω) :
    Honest theirs es x := by
  induction es generalizing x with
  | nil => trivial
  | cons e es ih =>
    obtain ⟨first, others⟩ := List.forall_mem_cons.1 ends
    refine ⟨?_, ih others _⟩
    cases first <;> trivial

/-- **What lives is what is owned.** A program has a pipeline on a device that nobody else uses. Passes
are made, join and leave, are disposed of in the list or after they have left, join again, are resized
and rendered; the pipeline is reset and comes to its end, and operations may fail. At each moment the
surfaces that live are those of the pipeline and of the passes, each owned once; the textures are theirs
and the shared depth texture, if there is one, and the triangle is the only geometry. Once the pipeline
has come to its end and no pass that is left owns anything, nothing lives; and that is so if the pipeline
and each pass that is left are disposed of, in any order. -/
theorem resources_follow (tidy : TidyProgram (fun _ => 0) H Q) {config : PipelineConfig}
    {s : Stage ω} (bare : s.device.Lives 0) {es : List (Event H Q ω)}
    (honest : Honest (fun _ => 0) es (start config s)) (hx : follow es (start config s) = x) :
    ((x.surfaces.map Surface.id).Nodup ∧
      x.stage.device.surfaces.keys.Perm (x.surfaces.map Surface.id) ∧
      x.stage.device.textures.keys.Perm
        (x.surfaces.map Surface.color ++ x.pipeline.depthTexture.toList) ∧
      x.stage.device.geometries = x.geometries) ∧
    (x.pipeline.disposed = true → (∀ q ∈ x.loose, q.owned = []) →
      x.stage.device.resources = []) ∧
    ∀ fs : List (Event H Q ω), (∀ e ∈ fs, e.Ends) → .op .dispose ∈ fs →
      (∀ i < x.loose.length, .disposePass (.loose i) ∈ fs) →
      (follow fs x).stage.device.resources = [] := by
  have empty {y : Rig H Q ω} (h : y.Accounts fun _ => 0) (ended : y.pipeline.disposed = true)
      (none_left : ∀ q ∈ y.loose, q.owned = []) : y.stage.device.resources = [] := by
    rcases h with h | h
    · exact absurd (h.alive.symm.trans ended) Bool.false_ne_true
    · have owns : y.stage.Owns (fun _ => 0) (passResources y.loose) := h.owns
      rw [passResources_eq_zero none_left] at owns
      exact (Multiset.coe_eq_zero _).1 owns.resources
  have accounts : x.Accounts fun _ => 0 :=
    hx ▸ accounts_follow tidy (accounts_start bare config) honest
  have lives : x.stage.device.Lives _ := accounts.lives
  rw [add_zero] at lives
  obtain ⟨surfaces, textures, geometries⟩ := lives.perm
  refine ⟨⟨surfaces.nodup_iff.1 lives.nodup_surfaces, surfaces, textures, ?_⟩, empty accounts,
    fun fs ends ended disposed => ?_⟩
  · rw [Rig.geometries] at geometries ⊢
    split_ifs at geometries ⊢
    · exact geometries.eq_nil
    · exact List.perm_singleton.1 geometries
  · obtain ⟨length, -, done⟩ := follow_ends ends x
    refine empty (accounts_follow tidy accounts (honest_of_ends ends x)) (done _ ended) ?_
    intro q hq
    obtain ⟨i, hi, rfl⟩ := List.mem_iff_getElem.1 hq
    exact done _ (disposed i (length ▸ hi)) _ (List.getElem?_eq_getElem hi)

/-- A blur leaves the list, is disposed of, and joins again; a reset and a frame follow. In between, a
pass that draws the depth and a pass that needs it are there. -/
def accountEvents : List (Event ProbeHooks ProbePass ProbeLog) :=
  [.op (.make (.builtin (.blur (BlurPass.create .small {}).1))),
    .op (.make (.builtin (.depth (.create ⟨0⟩ ⟨0⟩ none)))),
    .op (.make (.own { name := "ssao", flags := { needsDepth := true } })),
    .op (.add 0 none), .op (.add 0 none), .op (.add 0 none), .op (.remove 0),
    .disposePass (.loose 0), .op (.add 0 none), .op .reset, .op (.render (.seconds 1)),
    .op (.remove 2)]

/-- In the end three passes own three surfaces, one of them a loose pass. -/
theorem resources_follow_accountEvents :
    ∃ x : Rig ProbeHooks ProbePass ProbeLog,
      follow accountEvents (start {} { host := #[], device := .ofSize 64 32 }) = x ∧
        x.surfaces.length = 5 ∧ x.pipeline.depthTexture.isSome = true ∧ x.loose.length = 1 ∧
        x.stage.device.surfaces.keys.Perm (x.surfaces.map Surface.id) ∧
        (follow [.disposePass (.loose 0), .op .dispose] x).stage.device.resources = [] := by
  have honest : Honest (fun _ => 0) accountEvents
      (start {} { host := #[], device := .ofSize 64 32 }) :=
    ⟨rfl, rfl, rfl, trivial, trivial, trivial, trivial, trivial, trivial, trivial, trivial, trivial,
      trivial⟩
  have owned := resources_follow tidyProgram_probe (Device.lives_ofSize 64 32) honest rfl
  have one : (follow accountEvents
      (start {} { host := #[], device := .ofSize 64 32 })).loose.length = 1 := by decide +kernel
  refine ⟨_, rfl, by decide +kernel, by decide +kernel, one, owned.1.2.1, ?_⟩
  refine owned.2.2 _ (List.forall_mem_cons.2 ⟨.pass 0, List.forall_mem_singleton.2 .pipeline⟩)
    (List.mem_cons_of_mem _ List.mem_cons_self) fun i hi => ?_
  rw [one] at hi
  obtain rfl := Nat.lt_one_iff.1 hi
  exact List.mem_cons_self

end Rig

end ScreenEffects
