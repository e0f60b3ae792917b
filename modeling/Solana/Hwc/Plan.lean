import Solana.Hwc.Scan
import Solana.Lib.Fallible

/-!
# The plan of a frame

`hwc_prepare` ends in one of three ways: everything is blitted, the layers the overlays do not
take are blitted, or nothing is.  `composeFrame_ok` says which device each of them leaves.  In all
three the overlays of the primary display satisfy `PrimaryPlan` (`hwcPrepare_plan`), so what is
said about overlays elsewhere never looks at the blitter again.
-/

namespace Solana

open Fallible

/-! ## The three outcomes -/

/-- `blit_layers` succeeds: the input it gives the regionizer and the output it gets. -/
structure BlitOk (env : PrepareEnv) (dev : HwcDev) (list : Option LayerList) (q : RgzInParams)
    (out : OutData) : Prop where
  input : blitInput env dev list = some q
  accepted : (rgzIn dev.bltMode.ops.1 q dev.grgz).1 = rgzAll
  output : rgzOut dev.bltMode.ops.2 (rgzIn dev.bltMode.ops.1 q dev.grgz).2
    ⟨dev.gscrngeom, false⟩ = .ok out

variable {env : PrepareEnv} {dev dev' : HwcDev} {planned : Bool}

lemma blitLayers_ok {list : Option LayerList} {off : Nat}
    (h : blitLayers env dev list off = .ok (dev', planned)) :
    (planned = false ∧ dev' = blitErrOut dev) ∨
      (planned = true ∧ ∃ q out, BlitOk env dev list q out ∧
        dev' = blitPlanned dev (rgzIn dev.bltMode.ops.1 q dev.grgz).2 out off) := by
  have herr : ∀ {x : HwcDev × Bool}, x = (blitErrOut dev, false) → x = (dev', planned) →
      planned = false ∧ dev' = blitErrOut dev := by
    rintro _ rfl hx
    obtain ⟨h1, h2⟩ := Prod.mk.inj hx
    exact ⟨h2.symm, h1.symm⟩
  unfold blitLayers at h
  cases hq : blitInput env dev list with
  | none =>
    simp only [hq] at h
    exact Or.inl (herr rfl (Except.ok.inj h))
  | some q =>
    simp only [hq] at h
    by_cases hacc : (rgzIn dev.bltMode.ops.1 q dev.grgz).1 ≠ rgzAll
    · rw [if_pos hacc] at h
      exact Or.inl (herr rfl (Except.ok.inj h))
    · rw [if_neg hacc] at h
      cases hout : rgzOut dev.bltMode.ops.2 (rgzIn dev.bltMode.ops.1 q dev.grgz).2
          ⟨dev.gscrngeom, false⟩ with
      | error e =>
        cases e with
        | segv => simp [hout] at h
        | failed =>
          simp only [hout] at h
          exact Or.inl (herr rfl (Except.ok.inj h))
      | ok out =>
        simp only [hout] at h
        split_ifs at h
        · exact Or.inl (herr rfl (Except.ok.inj h))
        · obtain ⟨h1, h2⟩ := Prod.mk.inj (Except.ok.inj h)
          exact Or.inr ⟨h2.symm, q, out, ⟨hq, not_not.mp hacc, hout⟩, h1.symm⟩

/-- The regionizer after a frame without blits. -/
def idleRgz (dev : HwcDev) : Rgz :=
  if dev.bltPolicy = .disabled then dev.grgz else Rgz.zero

/-- The device a frame starts with. -/
def startDev (dev : HwcDev) (list : Option LayerList) : HwcDev :=
  prepareStart dev (listLayers (list.map LayerList.marked))

/-- How `hwc_prepare` can end, for the marked list and the device `dev₁` at its start. -/
inductive Outcome (env : PrepareEnv) (list : Option LayerList) (dev₁ dev' : HwcDev)
    (list' : Option LayerList) : Prop
  /-- Everything is blitted. -/
  | blitAll (q : RgzInParams) (out : OutData) (hpolicy : dev₁.bltPolicy = .all)
      (hblit : BlitOk env dev₁ list q out)
      (hdev : dev' = prepareEnd env
        { blitPlanned dev₁ (rgzIn dev₁.bltMode.ops.1 q dev₁.grgz).2 out 0 with
          useSgx := false, swapRb := false } true
        (.start { blitPlanned dev₁ (rgzIn dev₁.bltMode.ops.1 q dev₁.grgz).2 out 0 with
          useSgx := false, swapRb := false } true))
      (hlist : list' = withLayers list ((listLayers list).map blittedLayer))
  /-- The layers left to the framebuffer are blitted. -/
  | blitRest (s : Scan) (q : RgzInParams) (out : OutData) (hpolicy : dev₁.bltPolicy = .default)
      (hsgx : dev₁.useSgx = true) (hs : s = scanLayers dev₁ dev₁.useSgx (listLayers list))
      (hblit : BlitOk env { dev₁ with buffers := s.buffers } (withLayers list s.layers) q out)
      (hdev : dev' = prepareEnd env
        { blitPlanned { dev₁ with buffers := s.buffers }
            (rgzIn dev₁.bltMode.ops.1 q dev₁.grgz).2 out
            (if s.ovls.length = 1 then 0 else s.ovls.length) with
          useSgx := false } dev₁.useSgx s)
      (hlist : list' = withLayers (withLayers list s.layers)
        ((listLayers (withLayers list s.layers)).map blittedLayer))
  /-- Nothing is blitted. -/
  | noBlit (s : Scan) (hs : s = scanLayers dev₁ dev₁.useSgx (listLayers list))
      (hdev : dev' = prepareEnd env { dev₁ with buffers := s.buffers, grgz := idleRgz dev₁ }
        dev₁.useSgx s)
      (hlist : list' = withLayers list s.layers)

lemma blitAllStage_ok {list : Option LayerList}
    (h : blitAllStage env dev list = .ok (dev', planned)) : (planned = false ∧
      dev' = { dev with grgz := if dev.bltPolicy = .all then Rgz.zero else dev.grgz }) ∨
      (planned = true ∧ dev.bltPolicy = .all ∧ ∃ q out, BlitOk env dev list q out ∧
        dev' = { blitPlanned dev (rgzIn dev.bltMode.ops.1 q dev.grgz).2 out 0 with
          useSgx := false, swapRb := false }) := by
  unfold blitAllStage at h
  by_cases hpol : dev.bltPolicy = .all
  · rw [if_pos hpol] at h
    obtain ⟨⟨dev₂, blit⟩, hb, he⟩ := exists_of_map_eq_ok h
    obtain ⟨rfl, rfl⟩ := Prod.mk.inj he
    rcases blitLayers_ok hb with ⟨rfl, rfl⟩ | ⟨rfl, q, out, hok, rfl⟩
    · exact Or.inl ⟨rfl, by rw [if_pos hpol]; rfl⟩
    · exact Or.inr ⟨rfl, hpol, q, out, hok, rfl⟩
  · rw [if_neg hpol] at h
    obtain ⟨rfl, rfl⟩ := Prod.mk.inj (Except.ok.inj h)
    exact Or.inl ⟨rfl, by rw [if_neg hpol]⟩

lemma blitRestStage_ok {list : Option LayerList} {numOvls : Nat}
    (h : blitRestStage env dev list numOvls = .ok (dev', planned)) : (planned = false ∧
      dev' = { dev with grgz := if dev.bltPolicy = .default then Rgz.zero else dev.grgz }) ∨
      (planned = true ∧ dev.bltPolicy = .default ∧ dev.useSgx = true ∧ ∃ q out,
        BlitOk env dev list q out ∧
        dev' = { blitPlanned dev (rgzIn dev.bltMode.ops.1 q dev.grgz).2 out
            (if numOvls = 1 then 0 else numOvls) with
          useSgx := false }) := by
  unfold blitRestStage at h
  by_cases hpol : dev.bltPolicy = .default
  · rw [if_pos hpol] at h
    by_cases hsgx : dev.useSgx = true
    · rw [if_pos hsgx] at h
      obtain ⟨⟨dev₂, blit⟩, hb, he⟩ := exists_of_map_eq_ok h
      obtain ⟨rfl, rfl⟩ := Prod.mk.inj he
      rcases blitLayers_ok hb with ⟨rfl, rfl⟩ | ⟨rfl, q, out, hok, rfl⟩
      · exact Or.inl ⟨rfl, by rw [if_pos hpol]; rfl⟩
      · exact Or.inr ⟨rfl, hpol, hsgx, q, out, hok, rfl⟩
    · rw [if_neg hsgx] at h
      obtain ⟨rfl, rfl⟩ := Prod.mk.inj (Except.ok.inj h)
      exact Or.inl ⟨rfl, by rw [if_pos hpol]; rfl⟩
  · rw [if_neg hpol] at h
    obtain ⟨rfl, rfl⟩ := Prod.mk.inj (Except.ok.inj h)
    exact Or.inl ⟨rfl, by rw [if_neg hpol]⟩

variable {list list' : Option LayerList}

lemma composeFrame_ok (h : composeFrame env list dev = .ok (dev', list')) :
    Outcome env list dev dev' list' := by
  obtain ⟨⟨dev₂, blitAll⟩, h₁, h⟩ := exists_of_bind_eq_ok h
  obtain ⟨⟨dev₃, blitRest⟩, h₂, h⟩ := exists_of_bind_eq_ok h
  obtain ⟨rfl, rfl⟩ := Prod.mk.inj (Except.ok.inj h)
  rcases blitAllStage_ok h₁ with ⟨rfl, rfl⟩ | ⟨rfl, hpol, q, out, hok, rfl⟩
  · rw [Bool.or_false] at h₂ ⊢
    rcases blitRestStage_ok h₂ with ⟨rfl, rfl⟩ | ⟨rfl, hdef, hsgx, q, out, hok, rfl⟩
    · have hidle : (if dev.bltPolicy = .default then Rgz.zero
          else if dev.bltPolicy = .all then Rgz.zero else dev.grgz) = idleRgz dev := by
        unfold idleRgz
        cases dev.bltPolicy <;> rfl
      refine .noBlit _ rfl ?_ rfl
      rw [← hidle]
      rfl
    · have hall : ¬ dev.bltPolicy = .all := by
        rw [show dev.bltPolicy = .default from hdef]
        decide
      rw [if_neg hall] at hok ⊢
      exact .blitRest _ q out hdef hsgx rfl hok rfl rfl
  · rcases blitRestStage_ok h₂ with ⟨rfl, rfl⟩ | ⟨-, hdef, -⟩
    · have hdef : ¬ dev.bltPolicy = .default := by rw [hpol]; decide
      refine .blitAll q out hpol hok ?_ rfl
      rw [Bool.or_true]
      simp only [blitPlanned, hdef, if_false]
      rfl
    · exact absurd (hpol.symm.trans hdef) (by decide)

/-! ## The plan of the primary display -/

/-- What blitting can change in a device, put to fixed values. -/
def HwcDev.core (dev : HwcDev) : HwcDev :=
  { dev with
    useSgx := false
    swapRb := false
    buffers := fun _ => .null
    grgz := Rgz.zero
    blitUseFb := false
    blitNum := 0
    post2BlitBuffers := 0
    blitData := ⟨false, 0, []⟩ }

/-- The layers a frame is planned for. -/
def frameLayers (list : Option LayerList) : List HwcLayer :=
  listLayers (list.map LayerList.marked)

/-- The overlays of the primary display and what is decided with them, for the device `dev₁` at
the start of a frame. -/
structure FramePlan (dev₁ d : HwcDev) (layers : List HwcLayer) (ovls : List OvlInfo) (z : Nat) :
    Prop where
  core : d.core = dev₁.core
  primary : PrimaryPlan dev₁ layers ovls z
  bound : ovls.length ≤ max 1 dev₁.counts.maxHwOverlays

lemma length_placeFb (dev : HwcDev) (needsFb : Bool) (s : Scan) :
    (placeFb dev needsFb s).1.length = s.ovls.length := by
  have hshift : s.shiftGfx.length = s.ovls.length := by
    unfold Scan.shiftGfx
    split_ifs <;> simp
  cases needsFb <;> simp [placeFb, hshift]

lemma scanLayers_plan {dev₁ d : HwcDev} (hcore : d.core = dev₁.core)
    (hfmt : dev₁.fbDev.format.isValid = true) (layers : List HwcLayer) :
    let s := scanLayers dev₁ dev₁.useSgx layers
    FramePlan dev₁ d layers (placeFb dev₁ dev₁.useSgx s).1 (placeFb dev₁ dev₁.useSgx s).2 := by
  cases hsgx : dev₁.useSgx with
  | true =>
    have hscan := sgxScan hsgx layers
    exact ⟨hcore, primaryPlan_of_sgx hscan hfmt, (length_placeFb _ _ _).trans_le hscan.bound⟩
  | false =>
    have hscan := dssScan hsgx layers
    exact ⟨hcore, primaryPlan_of_dss hscan hsgx (countP_needsPipe_scan dev₁ false layers),
      (length_placeFb _ _ _).trans_le (hscan.bound.trans (le_max_right _ _))⟩

lemma Outcome.plan {dev₁ dev' : HwcDev} (h : Outcome env list dev₁ dev' list')
    (hfmt : dev₁.fbDev.format.isValid = true) :
    ∃ d ovls z ixDocking, FramePlan dev₁ d (listLayers list) ovls z ∧
      dev' = setupDsscomp env d ovls z ixDocking := by
  cases h with
  | blitAll q out _ _ hdev _ =>
    refine ⟨_, _, _, _, ⟨?_, ?_, ?_⟩, hdev⟩
    · rfl
    · exact primaryPlan_of_sgx (SgxScan.start dev₁ _) hfmt
    · rw [length_placeFb]
      exact (SgxScan.start dev₁ _).bound
  | blitRest s q out _ hsgx hs _ hdev _ =>
    subst hs
    refine ⟨_, _, _, _, scanLayers_plan ?_ hfmt _, hdev⟩
    rfl
  | noBlit s hs hdev _ =>
    subst hs
    refine ⟨_, _, _, _, scanLayers_plan ?_ hfmt _, hdev⟩
    rfl

/-- **The overlays of the primary display** in every frame. -/
theorem hwcPrepare_plan (h : hwcPrepare env list dev = .ok (dev', list'))
    (hfmt : dev.fbDev.format.isValid = true) :
    ∃ d ovls z ixDocking, FramePlan (startDev dev list) d (frameLayers list) ovls z ∧
      dev' = setupDsscomp env d ovls z ixDocking :=
  (composeFrame_ok h).plan hfmt

end Solana
