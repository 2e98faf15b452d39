import ScreenEffects.Proofs.Device.Untouched
import ScreenEffects.Proofs.OrderedMap

/-!
# Depth textures of a device

A device does not tell whose a texture is; what it knows is which of its textures store depth. Few
calls make or end one: all others leave the list of them as it is (`Device.SparesDepth`), so that two
owners of a device get along as long as each spares the depth of the other.

* `Device.HasDepth` : the depth textures of a device, whose handles are sound.
* `HasDepth.createDepthTexture`, `HasDepth.disposeTexture` : how one comes and goes.
* `DepthWithin.disposeSurface` : a surface that ends may take one with it, and brings none.
-/

namespace ScreenEffects

namespace Device

/-- The textures that store depth, from the oldest on. -/
def depthTextures (d : Device) : List Texture := d.textures.keysWhere (·.depth)

theorem liveDepthTextures_eq (d : Device) : d.liveDepthTextures = d.depthTextures.length := by
  unfold liveDepthTextures depthTextures OrderedMap.keysWhere OrderedMap.values
  rw [List.filter_map, List.length_map, List.length_map]
  rfl

/-- The depth textures are those of the list. Every texture has a handle of its own, and the next
handle is a new one. -/
structure HasDepth (L : List Texture) (d : Device) : Prop where
  textures : d.depthTextures = L
  nodup : d.textures.keys.Nodup
  old : ∀ t ∈ d.textures.keys, t.id < d.nextId

/-- The depth textures are some of the list. -/
def DepthWithin (L : List Texture) (d : Device) : Prop := ∃ K, K ⊆ L ∧ HasDepth K d

/-- Whatever the depth textures were before, they are so afterwards. -/
def SparesDepth (d₀ d : Device) : Prop := ∀ L, HasDepth L d₀ → HasDepth L d

theorem hasDepth_ofSize (width height : UInt32) : HasDepth [] (ofSize width height) :=
  ⟨rfl, List.nodup_nil, nofun⟩

section HasDepth

variable {L : List Texture} {d₀ d d' : Device}

theorem HasDepth.congr (h : HasDepth L d) (textures : d'.textures = d.textures)
    (nextId : d'.nextId = d.nextId) : HasDepth L d' where
  textures := by rw [depthTextures, textures, ← h.textures, depthTextures]
  nodup := textures ▸ h.nodup
  old := textures ▸ nextId ▸ h.old

theorem HasDepth.within (h : HasDepth L d) : DepthWithin L d := ⟨L, List.Subset.refl L, h⟩

theorem HasDepth.of_within_nil (h : DepthWithin [] d) : HasDepth [] d := by
  obtain ⟨K, hK, h⟩ := h
  rwa [List.subset_nil.1 hK] at h

theorem DepthWithin.spares (h : DepthWithin L d) (hd : SparesDepth d d') : DepthWithin L d' := by
  obtain ⟨K, hK, h⟩ := h
  exact ⟨K, hK, hd K h⟩

theorem SparesDepth.refl (d : Device) : SparesDepth d d := fun _ h => h

theorem SparesDepth.trans (h : SparesDepth d₀ d) (h' : SparesDepth d d') : SparesDepth d₀ d' :=
  fun L hL => h' L (h L hL)

/-- What leaves the textures and the next handle alone can be left out of account. -/
theorem SparesDepth.congr (h : SparesDepth d₀ d) (textures : d'.textures = d.textures)
    (nextId : d'.nextId = d.nextId) : SparesDepth d₀ d' :=
  fun L hL => (h L hL).congr textures nextId

/-! ## Textures that come and go -/

theorem HasDepth.takeId (h : HasDepth L d) : HasDepth L d.takeId.2 where
  textures := h.textures
  nodup := h.nodup
  old t ht := Nat.lt_succ_of_lt (h.old t ht)

theorem HasDepth.createTexture (h : HasDepth L d) (width height : UInt32) (depth : Bool) :
    HasDepth (L ++ if depth then [(d.createTexture width height depth).1] else [])
      (d.createTexture width height depth).2 := by
  have new : (⟨d.nextId⟩ : Texture) ∉ d.textures.keys := fun hk =>
    Nat.lt_irrefl d.nextId (h.old _ hk)
  constructor
  · rw [← h.textures]
    exact OrderedMap.keysWhere_insert_of_notMem new _
  · exact OrderedMap.nodup_keys_insert h.nodup _ _
  · intro t ht
    rcases OrderedMap.mem_keys_insert.1 ht with rfl | ht
    · exact Nat.lt_succ_self d.nextId
    · exact Nat.lt_succ_of_lt (h.old t ht)

theorem HasDepth.createDepthTexture (h : HasDepth L d) (width height : UInt32) :
    HasDepth (L ++ [(d.createDepthTexture width height).1])
      (d.createDepthTexture width height).2 :=
  have counted : HasDepth L { d with depthTexturesCreated := d.depthTexturesCreated + 1 } :=
    h.congr rfl rfl
  counted.createTexture _ _ true

theorem HasDepth.erase (h : HasDepth L d) (t : Texture) :
    HasDepth (L.erase t) { d with textures := d.textures.erase t } where
  textures := (OrderedMap.keysWhere_erase h.nodup t).trans (congrArg (·.erase t) h.textures)
  nodup := OrderedMap.keys_erase t ▸ h.nodup.erase t
  old u hu := h.old u (List.mem_of_mem_erase (OrderedMap.keys_erase t ▸ hu))

theorem HasDepth.disposeTexture (h : HasDepth L d) (t : Texture) :
    HasDepth (L.erase t) (d.disposeTexture t) := by
  unfold Device.disposeTexture
  split
  · exact (h.erase t).congr rfl rfl
  · rename_i absent
    have gone : t ∉ L := by
      intro ht
      rw [← h.textures] at ht
      obtain ⟨r, hr⟩ :=
        OrderedMap.exists_get?_of_mem_keys (OrderedMap.mem_keys_of_mem_keysWhere ht)
      exact absent (by rw [OrderedMap.contains, hr]; rfl)
    rwa [List.erase_of_not_mem gone]

/-- A texture that ends is none of the depth textures any more, if it was one. -/
theorem DepthWithin.disposeTexture {t : Texture} (h : DepthWithin (t :: L) d) :
    DepthWithin L (d.disposeTexture t) := by
  obtain ⟨K, hK, h⟩ := h
  have nodup : K.Nodup := h.textures ▸ OrderedMap.nodup_keysWhere h.nodup
  refine ⟨K.erase t, fun u hu => ?_, h.disposeTexture t⟩
  obtain ⟨ne, hu⟩ := nodup.mem_erase_iff.1 hu
  exact (List.mem_cons.1 (hK hu)).resolve_left ne

/-! ## Surfaces -/

theorem SparesDepth.createSurface (h : SparesDepth d₀ d) (spec : SurfaceSpec) :
    SparesDepth d₀ (d.createSurface spec).2 := by
  intro L hL
  have coloured := (h L hL).createTexture spec.width spec.height false
  rw [if_neg Bool.false_ne_true, List.append_nil] at coloured
  exact coloured.takeId.congr rfl rfl

theorem SparesDepth.resizeTexture (h : SparesDepth d₀ d) (width height : UInt32) (t : Texture) :
    SparesDepth d₀ (d.resizeTexture width height t) := by
  intro L hL
  have hd := h L hL
  have sized : (d.resizeTexture width height t).depthTextures = d.depthTextures := by
    refine OrderedMap.keysWhere_modify (fun r => ?_) t
    rfl
  exact {
    textures := sized.trans hd.textures
    nodup := (OrderedMap.keys_modify t _).symm ▸ hd.nodup
    old := fun u hu => hd.old u (OrderedMap.keys_modify t _ ▸ hu) }

theorem SparesDepth.keeps_resizeSurface (s : Surface) (width height : UInt32) :
    Act.Keeps (SparesDepth d₀) (resizeSurface s width height) := by
  intro d h
  unfold Act.after resizeSurface
  by_cases hs : d.surfaces.contains s.id
  · simp only [if_pos hs]
    have resized (ts : List Texture) (d : Device) (h : SparesDepth d₀ d) :
        SparesDepth d₀ (ts.foldl (·.resizeTexture (max 1 width) (max 1 height)) d) := by
      induction ts generalizing d with
      | nil => exact h
      | cons t ts ih => exact ih _ (h.resizeTexture _ _ t)
    have noted : SparesDepth d₀
        { d with surfaces := d.surfaces.insert s.id (max 1 width, max 1 height) } := h.congr rfl rfl
    exact (resized (s.color :: s.depthTexture.toList) _ noted).congr rfl rfl
  · simp only [if_neg hs]
    exact h

/-- A surface that ends takes its colour texture with it, and no other. -/
theorem DepthWithin.disposeSurface (h : DepthWithin L d) (s : Surface) :
    DepthWithin L (d.disposeSurface s) := by
  obtain ⟨K, hK, h⟩ := h
  unfold Device.disposeSurface
  split
  · exact ⟨K.erase s.color, fun u hu => hK (List.mem_of_mem_erase hu), (h.erase _).congr rfl rfl⟩
  · exact ⟨K, hK, h⟩

/-! ## Draws -/

theorem Untouched.sparesDepth (h : d.Untouched d') : SparesDepth d d' :=
  (SparesDepth.refl d).congr h.textures h.nextId

/-- What touches nothing that lives spares the depth textures. -/
theorem SparesDepth.keeps_of_untouched {α : Type} {act : Act Device α}
    (h : ∀ d : Device, Act.Keeps d.Untouched act) : Act.Keeps (SparesDepth d₀) act :=
  fun d hd => hd.trans (h d d (.refl d)).sparesDepth

end HasDepth

end Device

end ScreenEffects
