import ScreenEffects.Proofs.Device.Account

/-!
# Sizes on a device

A surface has a size in its description, in the record that the device keeps of it, and in the record of
its colour texture. `Surface.IsSized` says that the three agree. `Device.SameSizes m` says that from one
device to another the screen and the resources in `m` kept their sizes; what comes to life or ends
besides them has no part in it.

* `Lives.sameSizes_createSurface`, `Lives.sameSizes_disposeSurface`, and so on : a call leaves the sizes
  of others alone.
* `isSized_createSurface` : a surface is made in the size that is asked for.
* `Lives.exists_resizeSurface` : a surface that lives can be given a new size, which the depth texture
  that it carries then has too.
-/

namespace ScreenEffects

namespace Device

/-- The size that the device has on record for a surface or a texture. -/
def sizeOf? (d : Device) : Resource → Option (UInt32 × UInt32)
  | .surface x => d.surfaces.get? x
  | .texture t => (d.textures.get? t).map fun record => (record.width, record.height)
  | .geometry _ => none

/-- From `d` to `d'` the screen kept its size, and so did the resources in `m`. -/
structure SameSizes (m : Multiset Resource) (d d' : Device) : Prop where
  screen : d'.drawingSize = d.drawingSize
  sizes : ∀ r ∈ m, d'.sizeOf? r = d.sizeOf? r

end Device

section IsSized

variable {d d' : Device} {size : UInt32 × UInt32} {x : Surface}

/-- The description of a surface, the record of the surface and that of its colour texture agree on its
size. -/
structure Surface.IsSized (d : Device) (size : UInt32 × UInt32) (x : Surface) : Prop where
  described : x.size = size
  recorded : d.sizeOf? (.surface x.id) = some size
  color : d.sizeOf? (.texture x.color) = some size

theorem Surface.id_mem_resources (x : Surface) : .surface x.id ∈ x.resources :=
  Multiset.mem_cons_self _ {Resource.texture x.color}

theorem Surface.color_mem_resources (x : Surface) : .texture x.color ∈ x.resources :=
  Multiset.mem_cons_of_mem (Multiset.mem_singleton_self _)

theorem Surface.IsSized.same {m : Multiset Resource} (h : x.IsSized d size)
    (same : d.SameSizes m d') (hx : x.resources ≤ m) : x.IsSized d' size where
  described := h.described
  recorded := (same.sizes _ (Multiset.mem_of_le hx x.id_mem_resources)).trans h.recorded
  color := (same.sizes _ (Multiset.mem_of_le hx x.color_mem_resources)).trans h.color

end IsSized

namespace Device

variable {m m' : Multiset Resource} {d₀ d d' : Device}

/-! ## What stays as it is -/

theorem SameSizes.refl (m : Multiset Resource) (d : Device) : SameSizes m d d :=
  ⟨rfl, fun _ _ => rfl⟩

theorem SameSizes.trans (h : SameSizes m d₀ d) (h' : SameSizes m d d') : SameSizes m d₀ d' :=
  ⟨h'.screen.trans h.screen, fun r hr => (h'.sizes r hr).trans (h.sizes r hr)⟩

theorem SameSizes.mono (h : SameSizes m d d') (hm : m' ≤ m) : SameSizes m' d d' :=
  ⟨h.screen, fun r hr => h.sizes r (Multiset.mem_of_le hm hr)⟩

/-- What leaves the screen and the tables alone changes no size. -/
theorem SameSizes.congr (h : SameSizes m d₀ d) (screen : d'.drawingSize = d.drawingSize)
    (surfaces : d'.surfaces = d.surfaces) (textures : d'.textures = d.textures) :
    SameSizes m d₀ d' := by
  refine h.trans ⟨screen, fun r _ => ?_⟩
  cases r <;> simp only [sizeOf?, surfaces, textures]

theorem Untouched.sameSizes (h : d.Untouched d') (m : Multiset Resource) : SameSizes m d d' :=
  (SameSizes.refl m d).congr h.drawingSize h.surfaces h.textures

/-! ## What comes to life -/

theorem sizeOf?_createTexture (d : Device) (width height : UInt32) (depth : Bool) :
    (d.createTexture width height depth).2.sizeOf?
      (.texture (d.createTexture width height depth).1) = some (width, height) := by
  have new : (d.textures.insert ⟨d.nextId⟩ ⟨width, height, depth⟩).get? ⟨d.nextId⟩ =
      some ⟨width, height, depth⟩ := by rw [OrderedMap.get?_insert, if_pos rfl]
  exact congrArg (Option.map _) new

theorem Lives.sameSizes_createTexture (h : Lives m d) (width height : UInt32) (depth : Bool) :
    SameSizes m d (d.createTexture width height depth).2 := by
  refine ⟨rfl, fun r hr => ?_⟩
  cases r with
  | texture t =>
    have other : t ≠ ⟨d.nextId⟩ := fun e => h.ne_nextId (h.mem hr) (congrArg Texture.id e)
    have same := OrderedMap.get?_insert d.textures ⟨d.nextId⟩ t ⟨width, height, depth⟩
    rw [if_neg other] at same
    exact congrArg (Option.map _) same
  | _ => rfl

theorem sizeOf?_createDepthTexture (d : Device) (width height : UInt32) :
    (d.createDepthTexture width height).2.sizeOf? (.texture (d.createDepthTexture width height).1) =
      some (max 1 width, max 1 height) :=
  sizeOf?_createTexture { d with depthTexturesCreated := d.depthTexturesCreated + 1 } _ _ true

theorem Lives.sameSizes_createDepthTexture (h : Lives m d) (width height : UInt32) :
    SameSizes m d (d.createDepthTexture width height).2 := by
  let counted : Device := { d with depthTexturesCreated := d.depthTexturesCreated + 1 }
  have same : SameSizes m d counted := (SameSizes.refl m d).congr rfl rfl rfl
  have lives : Lives m counted := h.still ⟨rfl, rfl⟩
  exact same.trans (lives.sameSizes_createTexture _ _ true)

theorem isSized_createSurface (d : Device) (spec : SurfaceSpec) :
    (d.createSurface spec).1.IsSized (d.createSurface spec).2 (spec.width, spec.height) where
  described := rfl
  recorded := by
    have new := OrderedMap.get?_insert d.surfaces ⟨d.nextId + 1⟩ ⟨d.nextId + 1⟩
      (spec.width, spec.height)
    rwa [if_pos rfl] at new
  color := sizeOf?_createTexture d spec.width spec.height false

theorem Lives.sameSizes_createSurface (h : Lives m d) (spec : SurfaceSpec) :
    SameSizes m d (d.createSurface spec).2 := by
  refine (h.sameSizes_createTexture spec.width spec.height false).trans ⟨rfl, fun r hr => ?_⟩
  cases r with
  | surface y =>
    have other : y ≠ ⟨d.nextId + 1⟩ := by
      rintro rfl
      exact Nat.not_succ_lt_self (h.old _ hr)
    have same := OrderedMap.get?_insert d.surfaces ⟨d.nextId + 1⟩ y (spec.width, spec.height)
    rwa [if_neg other] at same
  | _ => rfl

theorem sameSizes_createGeometry (m : Multiset Resource) (d : Device) :
    SameSizes m d d.createGeometry.2 := (SameSizes.refl m d).congr rfl rfl rfl

/-! ## What ends -/

/-- What lives besides something else is something else. -/
theorem Lives.ne_of_mem (h : Lives (m' + m) d) {r r' : Resource} (hr : r ∈ m) (hr' : r' ∈ m') :
    r ≠ r' := fun e =>
  Multiset.disjoint_left.1 (Multiset.nodup_add.1 h.nodup).2.2 hr' (e ▸ hr)

theorem sizeOf?_erase_texture {t : Texture} {r : Resource} (hr : r ≠ .texture t) (d : Device) :
    sizeOf? { d with textures := d.textures.erase t } r = d.sizeOf? r := by
  cases r with
  | texture u =>
    have other : u ≠ t := fun e => hr (e ▸ rfl)
    exact congrArg (Option.map _) (OrderedMap.get?_erase_of_ne other d.textures)
  | _ => rfl

theorem sizeOf?_erase_surface {x : SurfaceId} {r : Resource} (hr : r ≠ .surface x) (d : Device) :
    sizeOf? { d with surfaces := d.surfaces.erase x } r = d.sizeOf? r := by
  cases r with
  | surface y =>
    have other : y ≠ x := fun e => hr (e ▸ rfl)
    exact OrderedMap.get?_erase_of_ne other d.surfaces
  | _ => rfl

theorem Lives.sameSizes_disposeSurface {x : Surface} (h : Lives (x.resources + m) d) :
    SameSizes m d (d.disposeSurface x) := by
  unfold Device.disposeSurface
  split
  · let gone : Device := { d with surfaces := d.surfaces.erase x.id }
    have erased : SameSizes m d { gone with textures := gone.textures.erase x.color } :=
      ⟨rfl, fun r hr => (sizeOf?_erase_texture (h.ne_of_mem hr x.color_mem_resources) gone).trans
        (sizeOf?_erase_surface (h.ne_of_mem hr x.id_mem_resources) d)⟩
    exact erased.congr rfl rfl rfl
  · exact .refl m d

theorem Lives.sameSizes_disposeTexture {t : Texture} (h : Lives ({.texture t} + m) d) :
    SameSizes m d (d.disposeTexture t) := by
  unfold Device.disposeTexture
  split
  · have erased : SameSizes m d { d with textures := d.textures.erase t } :=
      ⟨rfl, fun r hr => sizeOf?_erase_texture (h.ne_of_mem hr (Multiset.mem_singleton_self _)) d⟩
    exact erased.congr rfl rfl rfl
  · exact .refl m d

/-! ## A new size -/

theorem sizeOf?_resizeTexture (d : Device) (width height : UInt32) (t : Texture) (r : Resource) :
    (d.resizeTexture width height t).sizeOf? r =
      if r = .texture t then (d.sizeOf? r).map fun _ => (width, height) else d.sizeOf? r := by
  cases r with
  | texture u =>
    unfold sizeOf? resizeTexture
    simp only [OrderedMap.get?_modify, Resource.texture.injEq]
    split
    · rw [Option.map_map, Option.map_map]
      rfl
    · rfl
  | _ => simp [sizeOf?, resizeTexture]

theorem sizeOf?_resizeTextures (width height : UInt32) (ts : List Texture) (d : Device)
    (r : Resource) :
    (ts.foldl (·.resizeTexture width height) d).sizeOf? r =
      if r ∈ ts.map Resource.texture then (d.sizeOf? r).map fun _ => (width, height)
      else d.sizeOf? r := by
  induction ts generalizing d with
  | nil => rfl
  | cons t ts ih =>
    rw [List.foldl_cons, ih, sizeOf?_resizeTexture, List.map_cons]
    by_cases first : r = .texture t
    · have found : r ∈ Resource.texture t :: ts.map Resource.texture := first ▸ List.mem_cons_self
      rw [if_pos first, if_pos found, Option.map_map]
      exact ite_self _
    · rw [if_neg first]
      simp only [List.mem_cons, first, false_or]

theorem screen_resizeTextures (width height : UInt32) (ts : List Texture) (d : Device) :
    (ts.foldl (·.resizeTexture width height) d).drawingSize = d.drawingSize := by
  induction ts generalizing d with
  | nil => rfl
  | cons t ts ih => exact ih _

/-- A surface or a texture that lives has a size. -/
theorem Lives.exists_sizeOf? (h : Lives m d) {r : Resource} (hr : r ∈ m) (geometry : r.geometry? = none) :
    ∃ size, d.sizeOf? r = some size := by
  have live := h.mem hr
  cases r with
  | surface x => exact OrderedMap.exists_get?_of_mem_keys (mem_surfaces.1 live)
  | texture t =>
    obtain ⟨record, ht⟩ := OrderedMap.exists_get?_of_mem_keys (mem_textures.1 live)
    exact ⟨_, congrArg (Option.map _) ht⟩
  | geometry g => cases geometry

/-- The surface `x` with a new size, of which `m` besides it notices nothing but the new size of the depth
texture that the surface carries. -/
structure Resized (x : Surface) (size : UInt32 × UInt32) (m : Multiset Resource) (d d' : Device) :
    Prop where
  screen : d'.drawingSize = d.drawingSize
  isSized : { x with width := size.1, height := size.2 : Surface }.IsSized d' size
  carried : ∀ t ∈ x.depthTexture, .texture t ∈ m → d'.sizeOf? (.texture t) = some size
  others : ∀ r ∈ m, (∀ t ∈ x.depthTexture, r ≠ .texture t) → d'.sizeOf? r = d.sizeOf? r

/-- A surface that carries no depth texture is resized alone. -/
theorem Resized.sameSizes {x : Surface} {size : UInt32 × UInt32} (h : Resized x size m d d')
    (bare : x.depthTexture = none) : SameSizes m d d' :=
  ⟨h.screen, fun r hr => h.others r hr fun t ht => by rw [bare] at ht; cases ht⟩

/-- A surface that lives can be given a new size. -/
theorem Lives.exists_resizeSurface {x : Surface} (h : Lives (x.resources + m) d)
    (width height : UInt32) :
    ∃ d', resizeSurface x width height d =
        .ok { x with width := max 1 width, height := max 1 height } d' ∧
      Resized x (max 1 width, max 1 height) m d d' := by
  have mem {r : Resource} (hr : r ∈ x.resources) : r ∈ x.resources + m :=
    Multiset.mem_add.2 (.inl hr)
  have live : x.id ∈ d.surfaces.keys := mem_surfaces.1 (h.mem (mem x.id_mem_resources))
  let size : UInt32 × UInt32 := (max 1 width, max 1 height)
  let ts := x.color :: x.depthTexture.toList
  let noted : Device := { d with surfaces := d.surfaces.insert x.id size }
  let d' := ts.foldl (·.resizeTexture size.1 size.2) noted
  have sizes (r : Resource) : d'.sizeOf? r =
      if r ∈ ts.map Resource.texture then (noted.sizeOf? r).map fun _ => size
      else noted.sizeOf? r := sizeOf?_resizeTextures size.1 size.2 ts noted r
  have other {r : Resource} (hr : r ≠ .surface x.id) : noted.sizeOf? r = d.sizeOf? r := by
    cases r with
    | surface y =>
      have same := OrderedMap.get?_insert d.surfaces x.id y size
      rwa [if_neg fun e : y = x.id => hr (e ▸ rfl)] at same
    | _ => rfl
  have resized {t : Texture} (ht : t ∈ ts) (live : .texture t ∈ x.resources + m) :
      d'.sizeOf? (.texture t) = some size := by
    obtain ⟨old, hold⟩ := h.exists_sizeOf? live rfl
    rw [sizes, if_pos (List.mem_map_of_mem ht), other (r := .texture t) nofun, hold, Option.map_some]
  have outcome : Resized x size m d d' := by
    refine ⟨screen_resizeTextures size.1 size.2 ts noted, ⟨rfl, ?_, ?_⟩, ?_, ?_⟩
    · have new := OrderedMap.get?_insert d.surfaces x.id x.id size
      rw [sizes, if_neg (by simp)]
      rwa [if_pos rfl] at new
    · exact resized List.mem_cons_self (mem x.color_mem_resources)
    · exact fun t ht live => resized (List.mem_cons_of_mem _ (Option.mem_toList.2 ht))
        (Multiset.mem_add.2 (.inr live))
    · intro r hr apart
      rw [sizes, if_neg, other (h.ne_of_mem hr x.id_mem_resources)]
      rintro mem
      obtain ⟨t, ht, rfl⟩ := List.mem_map.1 mem
      rcases List.mem_cons.1 ht with rfl | ht
      · exact h.ne_of_mem hr x.color_mem_resources rfl
      · exact apart t (Option.mem_toList.1 ht) rfl
  refine ⟨d'.record (.resizeSurface x.id size.1 size.2), ?_, ?_⟩
  · unfold resizeSurface
    exact if_pos (contains_of_mem_keys live)
  · have recorded (r : Resource) : (d'.record (.resizeSurface x.id size.1 size.2)).sizeOf? r =
        d'.sizeOf? r := by cases r <;> rfl
    exact {
      screen := outcome.screen
      isSized := ⟨rfl, (recorded _).trans outcome.isSized.recorded,
        (recorded _).trans outcome.isSized.color⟩
      carried := fun t ht live => (recorded _).trans (outcome.carried t ht live)
      others := fun r hr apart => (recorded r).trans (outcome.others r hr apart) }

end Device

end ScreenEffects
