import Mathlib.Algebra.Order.Group.Multiset
import Mathlib.Tactic.Abel
import ScreenEffects.Proofs.Device.Untouched
import ScreenEffects.Proofs.OrderedMap

/-!
# What lives on a device

Nothing on a device ends by itself: a surface lives until someone disposes of it, and its colour texture
with it. `Device.Lives m d` is the balance of that. The surfaces, textures and geometries on the device
are those of the multiset `m`, each of them once, and the next handle is a new one.

A call adds to the balance or takes from it, whatever else is on the device, so the lemmas here have a
rest `m` that does not change. Most calls leave the balance alone (`Device.Still`).

* `Lives.createSurface`, `Lives.disposeSurface` : a surface comes and goes with its colour texture.
* `Lives.createDepthTexture`, `Lives.disposeTexture`, `Lives.createGeometry`, `Lives.disposeGeometry`.
* `Lives.perm_surfaces`, `Lives.perm_textures`, `Lives.perm_geometries` : a balance, read back.
-/

namespace ScreenEffects

/-- What lives on a device until it is ended. -/
inductive Resource
  | surface (id : SurfaceId)
  | texture (t : Texture)
  | geometry (g : Geometry)
  deriving DecidableEq

namespace Resource

/-- The number in the handle. -/
def number : Resource → Nat
  | surface x => x.id
  | texture t => t.id
  | geometry g => g.id

def surface? : Resource → Option SurfaceId
  | surface x => some x
  | _ => none

def texture? : Resource → Option Texture
  | texture t => some t
  | _ => none

def geometry? : Resource → Option Geometry
  | geometry g => some g
  | _ => none

end Resource

/-- A surface lives with its colour texture. -/
def Surface.resources (x : Surface) : Multiset Resource := {.surface x.id, .texture x.color}

/-- The resources of some surfaces. -/
def resourcesOf (xs : List Surface) : Multiset Resource := (xs.map Surface.resources).sum

@[simp] theorem resourcesOf_nil : resourcesOf [] = 0 := rfl

@[simp] theorem resourcesOf_cons (x : Surface) (xs : List Surface) :
    resourcesOf (x :: xs) = x.resources + resourcesOf xs := by
  rw [resourcesOf, resourcesOf, List.map_cons, List.sum_cons]

@[simp] theorem resourcesOf_append (xs ys : List Surface) :
    resourcesOf (xs ++ ys) = resourcesOf xs + resourcesOf ys := by
  rw [resourcesOf, resourcesOf, resourcesOf, List.map_append, List.sum_append]

section Kinds

variable (xs : List Surface)

@[simp] theorem filterMap_surface?_resourcesOf :
    (resourcesOf xs).filterMap Resource.surface? = (xs.map Surface.id : List SurfaceId) := by
  induction xs with
  | nil => rfl
  | cons x xs ih =>
    rw [resourcesOf_cons, Multiset.filterMap_add, ih]
    rfl

@[simp] theorem filterMap_texture?_resourcesOf :
    (resourcesOf xs).filterMap Resource.texture? = (xs.map Surface.color : List Texture) := by
  induction xs with
  | nil => rfl
  | cons x xs ih =>
    rw [resourcesOf_cons, Multiset.filterMap_add, ih]
    rfl

@[simp] theorem filterMap_geometry?_resourcesOf :
    (resourcesOf xs).filterMap Resource.geometry? = 0 := by
  induction xs with
  | nil => rfl
  | cons x xs ih =>
    rw [resourcesOf_cons, Multiset.filterMap_add, ih]
    rfl

variable {xs}

theorem resources_le_resourcesOf {x : Surface} (hx : x ∈ xs) : x.resources ≤ resourcesOf xs := by
  induction xs with
  | nil => cases hx
  | cons y ys ih =>
    rw [resourcesOf_cons]
    rcases List.mem_cons.1 hx with rfl | hx
    · exact Multiset.le_add_right _ _
    · exact (ih hx).trans (Multiset.le_add_left _ _)

/-- Surfaces whose resources are all different have different handles. -/
theorem nodup_of_resourcesOf (h : (resourcesOf xs).Nodup) :
    (xs.map Surface.id).Nodup ∧ (xs.map Surface.color).Nodup := by
  constructor
  · have ids : ((resourcesOf xs).filterMap Resource.surface?).Nodup := by
      refine h.filterMap _ fun r r' x hr hr' => ?_
      cases r <;> cases hr
      cases r' <;> cases hr'
      rfl
    rwa [filterMap_surface?_resourcesOf] at ids
  · have colours : ((resourcesOf xs).filterMap Resource.texture?).Nodup := by
      refine h.filterMap _ fun r r' x hr hr' => ?_
      cases r <;> cases hr
      cases r' <;> cases hr'
      rfl
    rwa [filterMap_texture?_resourcesOf] at colours

end Kinds

namespace Device

/-- All that lives on the device. -/
def resources (d : Device) : List Resource :=
  d.surfaces.keys.map .surface ++ (d.textures.keys.map .texture ++ d.geometries.map .geometry)

/-- What lives on the device is what the multiset has, each of it once, and the next handle is a new
one. -/
structure Lives (m : Multiset Resource) (d : Device) : Prop where
  resources : (d.resources : Multiset Resource) = m
  nodup : m.Nodup
  old : ∀ r ∈ m, r.number < d.nextId

/-- From `d₀` to `d` nothing came to life and nothing ended. -/
structure Still (d₀ d : Device) : Prop where
  resources : d.resources = d₀.resources
  nextId : d.nextId = d₀.nextId

section Lives

variable {m : Multiset Resource} {d₀ d d' : Device}

theorem lives_ofSize (width height : UInt32) : Lives 0 (ofSize width height) :=
  ⟨rfl, Multiset.nodup_zero, fun _ hr => absurd hr (Multiset.notMem_zero _)⟩

theorem Lives.still (h : Lives m d) (hd : d.Still d') : Lives m d' where
  resources := hd.resources ▸ h.resources
  nodup := h.nodup
  old := hd.nextId ▸ h.old

theorem Lives.mem (h : Lives m d) {r : Resource} (hr : r ∈ m) : r ∈ d.resources := by
  rwa [← h.resources, Multiset.mem_coe] at hr

/-! ## What comes to life -/

/-- Something new comes to life under the next handle. -/
theorem Lives.add (h : Lives m d) {r : Resource} (hr : r.number = d.nextId)
    (resources : d'.resources.Perm (r :: d.resources)) (nextId : d'.nextId = d.nextId + 1) :
    Lives ({r} + m) d' where
  resources := by
    rw [Multiset.coe_eq_coe.2 resources, ← Multiset.cons_coe, h.resources, Multiset.singleton_add]
  nodup := by
    rw [Multiset.singleton_add, Multiset.nodup_cons]
    exact ⟨fun mem => Nat.lt_irrefl d.nextId (hr ▸ h.old r mem), h.nodup⟩
  old q hq := by
    rw [Multiset.singleton_add, Multiset.mem_cons] at hq
    rw [nextId]
    rcases hq with rfl | hq
    · omega
    · exact Nat.lt_succ_of_lt (h.old q hq)

theorem mem_surfaces {x : SurfaceId} : .surface x ∈ d.resources ↔ x ∈ d.surfaces.keys := by
  simp [resources]

theorem mem_textures {t : Texture} : .texture t ∈ d.resources ↔ t ∈ d.textures.keys := by
  simp [resources]

/-- Nothing that lives has the next handle. -/
theorem Lives.ne_nextId (h : Lives m d) {r : Resource} (hr : r ∈ d.resources) :
    r.number ≠ d.nextId :=
  Nat.ne_of_lt (h.old r (h.resources ▸ Multiset.mem_coe.2 hr))

theorem Lives.insertTexture (h : Lives m d) (record : TextureRecord) :
    Lives ({.texture ⟨d.nextId⟩} + m)
      { d with nextId := d.nextId + 1, textures := d.textures.insert ⟨d.nextId⟩ record } := by
  have keys : (d.textures.insert ⟨d.nextId⟩ record).keys = d.textures.keys ++ [⟨d.nextId⟩] := by
    rw [OrderedMap.keys_insert, if_neg fun hk => h.ne_nextId (mem_textures.2 hk) rfl]
  refine h.add rfl ?_ rfl
  unfold Device.resources
  rw [keys, List.map_append, List.append_assoc]
  exact (List.perm_middle.append_left _).trans List.perm_middle

theorem Lives.insertSurface (h : Lives m d) (size : UInt32 × UInt32) :
    Lives ({.surface ⟨d.nextId⟩} + m)
      { d with nextId := d.nextId + 1, surfaces := d.surfaces.insert ⟨d.nextId⟩ size } := by
  have keys : (d.surfaces.insert ⟨d.nextId⟩ size).keys = d.surfaces.keys ++ [⟨d.nextId⟩] := by
    rw [OrderedMap.keys_insert, if_neg fun hk => h.ne_nextId (mem_surfaces.2 hk) rfl]
  refine h.add rfl ?_ rfl
  unfold Device.resources
  rw [keys, List.map_append, List.append_assoc]
  exact List.perm_middle

theorem Lives.createTexture (h : Lives m d) (width height : UInt32) (depth : Bool) :
    Lives ({.texture (d.createTexture width height depth).1} + m)
      (d.createTexture width height depth).2 :=
  (h.insertTexture ⟨width, height, depth⟩).still ⟨rfl, rfl⟩

theorem Lives.createDepthTexture (h : Lives m d) (width height : UInt32) :
    Lives ({.texture (d.createDepthTexture width height).1} + m)
      (d.createDepthTexture width height).2 :=
  have counted : Lives m { d with depthTexturesCreated := d.depthTexturesCreated + 1 } :=
    h.still ⟨rfl, rfl⟩
  counted.createTexture _ _ true

theorem Lives.createSurface (h : Lives m d) (spec : SurfaceSpec) :
    Lives ((d.createSurface spec).1.resources + m) (d.createSurface spec).2 := by
  have coloured := h.createTexture spec.width spec.height false
  have made : Lives ((d.createSurface spec).1.resources + m) _ :=
    add_assoc _ _ m ▸ coloured.insertSurface (spec.width, spec.height)
  exact made.still ⟨rfl, rfl⟩

/-- Two surfaces come to life, one after the other. -/
theorem Lives.createSurfaces (h : Lives m d) (spec spec' : SurfaceSpec) :
    Lives ((d.createSurface spec).1.resources +
        (((d.createSurface spec).2.createSurface spec').1.resources + m))
      ((d.createSurface spec).2.createSurface spec').2 :=
  add_left_comm _ _ m ▸ (h.createSurface spec).createSurface spec'

theorem Lives.createGeometry (h : Lives m d) :
    Lives ({.geometry d.createGeometry.1} + m) d.createGeometry.2 := by
  refine h.add rfl ?_ rfl
  change (d.surfaces.keys.map _ ++ (d.textures.keys.map _ ++ (d.geometries ++ [_]).map _)).Perm _
  rw [List.map_append, ← List.append_assoc, ← List.append_assoc]
  exact List.perm_append_comm.trans (.of_eq (by rw [List.append_assoc]; rfl))

/-! ## What ends -/

theorem Lives.remove {r : Resource} (h : Lives ({r} + m) d)
    (resources : d'.resources = d.resources.erase r) (nextId : d'.nextId = d.nextId) :
    Lives m d' where
  resources := by
    rw [resources, ← Multiset.coe_erase, h.resources, Multiset.singleton_add,
      Multiset.erase_cons_head]
  nodup := (Multiset.nodup_cons.1 (Multiset.singleton_add r m ▸ h.nodup)).2
  old q hq := nextId ▸ h.old q (Multiset.mem_add.2 (.inr hq))

theorem resources_erase_surface {x : SurfaceId} (hx : x ∈ d.surfaces.keys) :
    resources { d with surfaces := d.surfaces.erase x } = d.resources.erase (.surface x) := by
  have inj : Function.Injective Resource.surface := fun _ _ e => Resource.surface.inj e
  unfold resources
  rw [List.erase_append_left _ (List.mem_map_of_mem hx), ← List.map_erase inj,
    OrderedMap.keys_erase]

theorem resources_erase_texture {t : Texture} (ht : t ∈ d.textures.keys) :
    resources { d with textures := d.textures.erase t } = d.resources.erase (.texture t) := by
  have inj : Function.Injective Resource.texture := fun _ _ e => Resource.texture.inj e
  unfold resources
  rw [List.erase_append_right _ (by simp), List.erase_append_left _ (List.mem_map_of_mem ht),
    ← List.map_erase inj, OrderedMap.keys_erase]

theorem resources_erase_geometry (d : Device) (g : Geometry) :
    (d.disposeGeometry g).resources = d.resources.erase (.geometry g) := by
  have inj : Function.Injective Resource.geometry := fun _ _ e => Resource.geometry.inj e
  unfold resources
  rw [List.erase_append_right _ (by simp), List.erase_append_right _ (by simp),
    ← List.map_erase inj]
  rfl

theorem contains_of_mem_keys {κ ν : Type} [DecidableEq κ] {map : OrderedMap κ ν} {k : κ}
    (h : k ∈ map.keys) : map.contains k = true := by
  obtain ⟨v, hv⟩ := OrderedMap.exists_get?_of_mem_keys h
  rw [OrderedMap.contains, hv]
  rfl

/-- A surface that ends takes its colour texture with it. -/
theorem Lives.disposeSurface {x : Surface} (h : Lives (x.resources + m) d) :
    Lives m (d.disposeSurface x) := by
  have balance : Lives ({.surface x.id} + ({.texture x.color} + m)) d := by
    rwa [← add_assoc]
  have live : x.id ∈ d.surfaces.keys := mem_surfaces.1 (balance.mem (by simp))
  have coloured : x.color ∈ d.textures.keys := mem_textures.1 (balance.mem (by simp))
  unfold Device.disposeSurface
  rw [if_pos (contains_of_mem_keys live)]
  let gone : Device := { d with surfaces := d.surfaces.erase x.id }
  have half : Lives ({.texture x.color} + m) gone :=
    balance.remove (resources_erase_surface live) rfl
  have ended : Lives m { gone with textures := gone.textures.erase x.color } :=
    half.remove (resources_erase_texture (d := gone) coloured) rfl
  exact ended.still ⟨rfl, rfl⟩

theorem Lives.disposeTexture {t : Texture} (h : Lives ({.texture t} + m) d) :
    Lives m (d.disposeTexture t) := by
  have live : t ∈ d.textures.keys := mem_textures.1 (h.mem (by simp))
  have ended : Lives m { d with textures := d.textures.erase t } :=
    h.remove (resources_erase_texture live) rfl
  unfold Device.disposeTexture
  rw [if_pos (contains_of_mem_keys live)]
  exact ended.still ⟨rfl, rfl⟩

theorem Lives.disposeGeometry {g : Geometry} (h : Lives ({.geometry g} + m) d) :
    Lives m (d.disposeGeometry g) :=
  h.remove (d.resources_erase_geometry g) rfl

/-! ## What stays as it is -/

theorem Still.refl (d : Device) : Still d d := ⟨rfl, rfl⟩

theorem Still.trans (h : Still d₀ d) (h' : Still d d') : Still d₀ d' :=
  ⟨h'.resources.trans h.resources, h'.nextId.trans h.nextId⟩

/-- What leaves the tables alone leaves alone what lives. -/
theorem Still.congr (h : Still d₀ d) (surfaces : d'.surfaces.keys = d.surfaces.keys)
    (textures : d'.textures.keys = d.textures.keys) (geometries : d'.geometries = d.geometries)
    (nextId : d'.nextId = d.nextId) : Still d₀ d' :=
  h.trans ⟨by unfold Device.resources; rw [surfaces, textures, geometries], nextId⟩

theorem Still.record (h : Still d₀ d) (c : Command) : Still d₀ (d.record c) :=
  h.congr rfl rfl rfl rfl

theorem Untouched.still (h : d.Untouched d') : Still d d' :=
  (Still.refl d).congr (congrArg _ h.surfaces) (congrArg _ h.textures) h.geometries h.nextId

theorem keeps_still_resizeSurface (x : Surface) (width height : UInt32) :
    Act.Keeps (Still d₀) (resizeSurface x width height) := by
  intro d h
  unfold Act.after resizeSurface
  by_cases live : d.surfaces.contains x.id
  · simp only [if_pos live]
    have resized (ts : List Texture) (d : Device) (h : Still d₀ d) :
        Still d₀ (ts.foldl (·.resizeTexture (max 1 width) (max 1 height)) d) := by
      induction ts generalizing d with
      | nil => exact h
      | cons t ts ih => exact ih _ (h.congr rfl (OrderedMap.keys_modify t _) rfl rfl)
    have keys : (d.surfaces.insert x.id (max 1 width, max 1 height)).keys = d.surfaces.keys := by
      rw [OrderedMap.keys_insert, if_pos]
      by_contra hk
      rw [OrderedMap.contains, OrderedMap.get?_eq_none_iff.2 hk] at live
      cases live
    have noted : Still d₀
        { d with surfaces := d.surfaces.insert x.id (max 1 width, max 1 height) } :=
      h.congr keys rfl rfl rfl
    exact (resized (x.color :: x.depthTexture.toList) _ noted).record _
  · simp only [if_neg live]
    exact h

/-! ## A balance, read back -/

theorem Lives.perm_surfaces (h : Lives m d) :
    (d.surfaces.keys : Multiset SurfaceId) = m.filterMap Resource.surface? := by
  rw [← h.resources, Multiset.filterMap_coe]
  unfold Device.resources
  simp [List.filterMap_append, List.filterMap_map, Function.comp_def, Resource.surface?]

theorem Lives.perm_textures (h : Lives m d) :
    (d.textures.keys : Multiset Texture) = m.filterMap Resource.texture? := by
  rw [← h.resources, Multiset.filterMap_coe]
  unfold Device.resources
  simp [List.filterMap_append, List.filterMap_map, Function.comp_def, Resource.texture?]

theorem Lives.perm_geometries (h : Lives m d) :
    (d.geometries : Multiset Geometry) = m.filterMap Resource.geometry? := by
  rw [← h.resources, Multiset.filterMap_coe]
  unfold Device.resources
  simp [List.filterMap_append, List.filterMap_map, Function.comp_def, Resource.geometry?]

/-- All that lives, if surfaces, other textures and geometries are known. -/
theorem Lives.perm {xs : List Surface} {ts : List Texture} {gs : List Geometry}
    (h : Lives (resourcesOf xs + (ts.map Resource.texture : Multiset Resource) +
      (gs.map Resource.geometry : Multiset Resource)) d) :
    d.surfaces.keys.Perm (xs.map Surface.id) ∧
      d.textures.keys.Perm (xs.map Surface.color ++ ts) ∧ d.geometries.Perm gs := by
  refine ⟨?_, ?_, ?_⟩
  · simpa [Multiset.filterMap_add, Function.comp_def, Resource.surface?] using h.perm_surfaces
  · simpa [Multiset.filterMap_add, Function.comp_def, Resource.texture?] using h.perm_textures
  · simpa [Multiset.filterMap_add, Function.comp_def, Resource.geometry?] using h.perm_geometries

theorem Lives.nodup_surfaces (h : Lives m d) : d.surfaces.keys.Nodup := by
  have nodup : d.resources.Nodup := Multiset.coe_nodup.1 (h.resources ▸ h.nodup)
  exact (List.nodup_append.1 nodup).1.of_map _

end Lives

end Device

end ScreenEffects
