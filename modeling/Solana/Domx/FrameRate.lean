import Solana.Lib.Runs
import Mathlib.Algebra.Group.Nat.Defs
import Mathlib.Tactic.SplitIfs

/-!
# The frame rate of the H.264 encoder proxy

For frames from the camera the proxy measures the frame rate, and when it differs from the rate that
the encoder was given last, `OMX_ConfigureDynamicFrameRate` configures the measured one, up to the
rate that the port had at first.  What it measures with are global variables: no new instance of the
encoder resets them.

`Configured` records each rate that is configured, with the port rate that the instance had at
first.  The remote side reports the rate that was configured last.  `rates_in_range`: the rates are
in range as long as a measurement takes some time, but at most a second for each frame, and no
instance has a lower port rate than the one before it.
-/

namespace Solana.FrameRate

open Runs Option

/-! ## The function -/

/-- The global variables: `nFrameRateThreshold`, `nPortFrameRate`, `nFrameCounter` and
`nLastFrameRateUpdateTime`. -/
structure Globals where
  frameRateThreshold : Nat
  portFrameRate : Nat
  frameCounter : Nat
  lastFrameRateUpdateTime : Int

/-- A rate that was configured, and the first port rate of the instance. -/
structure Configured where
  rate : Nat
  initial : Nat
  deriving DecidableEq

/-- The proxy, and the encoder that it is the proxy of. -/
structure Proxy where
  globals : Globals
  /-- `xEncodeFramerate`, as the remote side reports it -/
  xEncodeFramerate : Nat
  /-- The port rate that the instance had at first. -/
  initial : Nat
  configured : List Configured

/-- The time of the last update: for the first frame of all, its own time. -/
def Globals.lastUpdate (g : Globals) (timeStamp : Int) : Int :=
  if g.frameCounter = 0 ∧ g.lastFrameRateUpdateTime = 0 then timeStamp
  else g.lastFrameRateUpdateTime

/-- The time since the last update, in `OMX_TICKS`. -/
def Globals.videoTime (g : Globals) (timeStamp : Int) : Int :=
  (timeStamp - g.lastUpdate timeStamp).bmod (2 ^ 64)

/-- `nFrameCounter` after a frame. -/
def Globals.count (g : Globals) : Nat := (g.frameCounter + 1) % 2 ^ 32

/-- The rate that some frames in some time make; the product has 32 bits. -/
def measuredRate (frames : Nat) (videoTime : Int) : Nat :=
  if videoTime ≠ 0 then (frames * 1000000 % 2 ^ 32 / videoTime.toNat) % 2 ^ 32 else 0

/-- The threshold and the port rate, which are read from the encoder if there is no threshold. -/
def Proxy.readPortRate (p : Proxy) : Nat × Nat :=
  if p.globals.frameRateThreshold = 0 then (p.xEncodeFramerate >>> 16, p.xEncodeFramerate >>> 16)
  else (p.globals.frameRateThreshold, p.globals.portFrameRate)

/-- `OMX_ConfigureDynamicFrameRate`, with whether `SetConfig` succeeds. -/
def Proxy.configureDynamicFrameRate (p : Proxy) (timeStamp : Int) (setOk : Bool) : Proxy :=
  let g := p.globals
  let videoTime := g.videoTime timeStamp
  let g := { g with frameCounter := g.count, lastFrameRateUpdateTime := g.lastUpdate timeStamp }
  if videoTime < 0 then { p with globals := g }
  else
    let (threshold, port) := p.readPortRate
    let g := { g with frameRateThreshold := threshold, portFrameRate := port }
    if g.frameCounter < threshold then { p with globals := g }
    else
      let measured := measuredRate g.frameCounter videoTime
      let target := if measured > port then port else measured
      let reset : Globals := ⟨threshold, port, 0, timeStamp⟩
      if ¬((target : Int) - threshold ≥ 1 ∨ (threshold : Int) - target ≥ 1) then
        { p with globals := reset }
      else
        let p := { p with configured := ⟨target, p.initial⟩ :: p.configured }
        if setOk then
          { p with
            globals := { reset with frameRateThreshold := target }
            xEncodeFramerate := target * 2 ^ 16 % 2 ^ 32 }
        else { p with globals := g }

/-! ## Runs -/

/-- A frame, from the camera or not, and a new instance, with the rate it is set up with. -/
inductive Event
  | frame (camera : Bool) (timeStamp : Int) (setOk : Bool)
  | instance (xEncodeFramerate : Nat)

/-- The proxy after an event.  A new instance has a positive port rate. -/
def Proxy.next (p : Proxy) : Event → Option Proxy
  | .frame camera timeStamp setOk =>
    -- `ComponentPrivateEmptyThisBuffer` looks at the type of the metadata
    some (if camera then p.configureDynamicFrameRate timeStamp setOk else p)
  | .instance x =>
    if 0 < x >>> 16 ∧ x < 2 ^ 32 then some { p with xEncodeFramerate := x, initial := x >>> 16 }
    else none

/-- Before the first instance. -/
def Proxy.start : Proxy := ⟨⟨0, 0, 0, 0⟩, 0, 0, []⟩

/-- The states in runs whose events meet a condition. -/
def Proxy.ReachableWith (Cond : Proxy → Event → Prop) : Proxy → Prop :=
  Reachable (fun p => ∃ x, Proxy.start.next (.instance x) = some p)
    fun p e p' => Cond p e ∧ p.next e = some p'

/-! ## Rates in range -/

/-- A frame that completes a measurement comes later than the last update, by at most a second for
each frame counted (as 32 bits give it), and a new instance has no lower port rate than the one that
is in use. -/
def Event.Steady (p : Proxy) : Event → Prop
  | .frame camera timeStamp _ =>
    camera = true → 0 ≤ p.globals.videoTime timeStamp →
      p.readPortRate.1 ≤ p.globals.count →
      0 < p.globals.videoTime timeStamp ∧
        p.globals.videoTime timeStamp ≤ (p.globals.count * 1000000 % 2 ^ 32 : Nat)
  | .instance x => p.globals.frameRateThreshold = 0 ∨ p.globals.portFrameRate ≤ x >>> 16

instance (p : Proxy) : DecidablePred (Event.Steady p)
  | .frame _ _ _ => inferInstanceAs (Decidable (_ → _))
  | .instance _ => inferInstanceAs (Decidable (_ ∨ _))

/-- The port rate that is in use, or will be read, is one the instance allows. -/
structure Proxy.InRange (p : Proxy) : Prop where
  unread : p.globals.frameRateThreshold = 0 → p.xEncodeFramerate >>> 16 = p.initial
  read : p.globals.frameRateThreshold ≠ 0 →
    0 < p.globals.portFrameRate ∧ p.globals.portFrameRate ≤ p.initial
  initial : 0 < p.initial
  configured : ∀ c ∈ p.configured, 0 < c.rate ∧ c.rate ≤ c.initial

lemma measuredRate_pos {frames : Nat} {videoTime : Int} (hpos : 0 < videoTime)
    (hle : videoTime ≤ (frames * 1000000 % 2 ^ 32 : Nat)) : 0 < measuredRate frames videoTime := by
  obtain ⟨n, rfl⟩ := Int.eq_ofNat_of_zero_le (Int.le_of_lt hpos)
  have hn : 0 < n := by omega
  have hlt : frames * 1000000 % 2 ^ 32 / n < 2 ^ 32 :=
    Nat.lt_of_le_of_lt (Nat.div_le_self _ n) (Nat.mod_lt _ (by decide))
  unfold measuredRate
  rw [if_pos (by omega), Int.toNat_natCast, Nat.mod_eq_of_lt hlt]
  exact Nat.div_pos (by omega) hn

variable {p p' : Proxy}

lemma Proxy.InRange.readPortRate (h : p.InRange) :
    0 < p.readPortRate.1 ∧ 0 < p.readPortRate.2 ∧ p.readPortRate.2 ≤ p.initial := by
  unfold Proxy.readPortRate
  split_ifs with hz
  · rw [h.unread hz]
    exact ⟨h.initial, h.initial, Nat.le_refl _⟩
  · exact ⟨Nat.pos_of_ne_zero hz, h.read hz⟩

lemma Proxy.InRange.of_read (h : p.InRange) {g : Globals} (hg : 0 < g.frameRateThreshold)
    (hport : g.portFrameRate = p.readPortRate.2) (x : Nat) :
    ({ p with globals := g, xEncodeFramerate := x } : Proxy).InRange := by
  refine ⟨fun hz => absurd hz (Nat.ne_of_gt hg), fun _ => ?_, h.initial, h.configured⟩
  rw [hport]
  exact h.readPortRate.2

lemma Proxy.InRange.frame (h : p.InRange) {timeStamp : Int} (setOk : Bool)
    (hs : 0 ≤ p.globals.videoTime timeStamp → p.readPortRate.1 ≤ p.globals.count →
      0 < p.globals.videoTime timeStamp ∧
        p.globals.videoTime timeStamp ≤ (p.globals.count * 1000000 % 2 ^ 32 : Nat)) :
    (p.configureDynamicFrameRate timeStamp setOk).InRange := by
  obtain ⟨hthreshold, hport, hle⟩ := h.readPortRate
  unfold Proxy.configureDynamicFrameRate
  simp only
  by_cases htime : p.globals.videoTime timeStamp < 0
  · rw [if_pos htime]
    exact ⟨h.unread, h.read, h.initial, h.configured⟩
  rw [if_neg htime]
  by_cases hcount : p.globals.count < p.readPortRate.1
  · rw [if_pos hcount]
    exact h.of_read hthreshold rfl _
  rw [if_neg hcount]
  obtain ⟨hpos, hsecond⟩ := hs (by omega) (by omega)
  have hmeasured := measuredRate_pos hpos hsecond
  -- the measured rate, but not more than the port rate
  generalize hif : (if measuredRate p.globals.count (p.globals.videoTime timeStamp) >
      p.readPortRate.2 then p.readPortRate.2
      else measuredRate p.globals.count (p.globals.videoTime timeStamp)) = target
  have htarget : 0 < target ∧ target ≤ p.initial := by
    split_ifs at hif <;> omega
  have hlog : ({ p with configured := ⟨target, p.initial⟩ :: p.configured } : Proxy).InRange :=
    ⟨h.unread, h.read, h.initial, List.forall_mem_cons.mpr ⟨htarget, h.configured⟩⟩
  split_ifs
  · exact hlog.of_read htarget.1 rfl _
  · exact hlog.of_read hthreshold rfl _
  · exact h.of_read hthreshold rfl _

lemma Proxy.InRange.next (h : p.InRange) {e : Event} (hs : e.Steady p) (hn : p.next e = some p') :
    p'.InRange := by
  cases e with
  | frame camera timeStamp setOk =>
    obtain rfl := some.inj hn
    split_ifs with hcamera
    · exact h.frame setOk (hs hcamera)
    · exact h
  | «instance» x =>
    obtain ⟨⟨hpos, -⟩, hn⟩ := ite_none_right_eq_some.mp hn
    obtain rfl := some.inj hn
    refine ⟨fun _ => rfl, fun hne => ⟨(h.read hne).1, ?_⟩, hpos, h.configured⟩
    exact hs.resolve_left hne

/-- **The rates are in range.**  In every run in which each measurement of frames from the camera
takes some time, but at most a second for each frame, and no instance has a lower port rate than the
one in use, every rate that is configured is at least 1 and at most the port rate that the instance
had at first. -/
theorem rates_in_range (hp : p.ReachableWith fun p e => e.Steady p) :
    ∀ c ∈ p.configured, 1 ≤ c.rate ∧ c.rate ≤ c.initial := by
  have h : p.InRange := by
    refine hp.invariant Proxy.InRange ?_ fun p e p' h hs => h.next hs.1 hs.2
    rintro p ⟨x, hx⟩
    obtain ⟨⟨hpos, -⟩, hx⟩ := ite_none_right_eq_some.mp hx
    obtain rfl := some.inj hx
    exact ⟨fun _ => rfl, fun hne => absurd rfl hne, hpos, nofun⟩
  exact h.configured

/-- Frames from the camera with some time stamps. -/
def cameraFrames (timeStamps : List Int) : List Event := timeStamps.map (.frame true · true)

/-- Three frames in 1.4 seconds, with a port rate of 3: the rate is set to 2. -/
theorem rate_lowered :
    ∃ p : Proxy, p.configured = [⟨2, 3⟩] ∧ ∀ c ∈ p.configured, 1 ≤ c.rate ∧ c.rate ≤ c.initial := by
  obtain ⟨p, hp, hconfigured⟩ : ∃ p, Proxy.ReachableWith (fun p e => e.Steady p) p ∧
      p.configured = [⟨2, 3⟩] :=
    exists_of_start (fun _ h => ⟨3 <<< 16, h⟩) (cameraFrames [1, 2, 1400001]) (by decide +kernel)
  exact ⟨p, hconfigured, rates_in_range hp⟩

/-- With a port rate of 1, the first frame sets the rate to 0; and an instance whose port rate is 1
gets the rate 2, as the port rate 3 of the instance before it is still in use. -/
theorem rates_out_of_range :
    (∃ p : Proxy, p.ReachableWith (fun _ _ => True) ∧ p.configured = [⟨0, 1⟩]) ∧
      ∃ p : Proxy, p.ReachableWith (fun _ _ => True) ∧ p.configured = [⟨2, 1⟩] := by
  constructor
  · exact exists_of_start (fun _ h => ⟨1 <<< 16, h⟩) (cameraFrames [5]) (by decide +kernel)
  · exact exists_of_start (fun _ h => ⟨3 <<< 16, h⟩)
      (cameraFrames [1] ++ .instance (1 <<< 16) :: cameraFrames [2, 1400001]) (by decide +kernel)

end Solana.FrameRate
