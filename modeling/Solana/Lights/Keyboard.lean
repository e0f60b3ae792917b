import Mathlib.Algebra.Group.Nat.Defs
import Mathlib.Tactic.SplitIfs
import Solana.Lib.Runs

/-!
# The lights of the keyboard and the buttons

`set_light_keyboard` and `set_light_buttons` both write the brightness of the keyboard backlight.
Each of them writes only when its own light goes on or off, compared with the brightness that it was
asked for last, whether or not that could be written and whatever the other one has written since.

`keyboard_light_right`: the keyboard light is as requested as long as its writes succeed and the
buttons are switched only to what the keyboard was switched to.
-/

namespace Solana.Lights

open Runs

/-! ## The requests -/

/-- `rgb_to_brightness`. -/
def rgbToBrightness (color : Nat) : Nat :=
  let red := color / 2 ^ 16 % 256
  let green := color / 2 ^ 8 % 256
  let blue := color % 256
  (77 * red + 150 * green + 29 * blue) / 256

/-- The variables, and the last value that was written to `KEYBOARD_FILE` with success. -/
structure Globals where
  /-- `g_last_keyboard_brightness` -/
  lastKeyboard : Int
  /-- `g_last_button_brightness` -/
  lastButton : Int
  keyboardFile : Option Nat

/-- `init_globals`. -/
def Globals.init : Globals := ⟨-1, -1, none⟩

/-- A request is written: it is the first one, or the light goes on or off. -/
def switches (last : Int) (brightness : Nat) : Bool :=
  last < 0 || last = 0 && 0 < brightness || 0 < last && brightness = 0

/-- `write_int` to `KEYBOARD_FILE`, with its outcome. -/
def Globals.writeKeyboard (s : Globals) (brightness : Nat) (ok : Bool) : Globals :=
  if ok then { s with keyboardFile := some (if brightness = 0 then 0 else 255) } else s

/-- `set_light_keyboard`, and whether it succeeds. -/
def Globals.setLightKeyboard (s : Globals) (color : Nat) (ok : Bool) : Globals × Bool :=
  let brightness := rgbToBrightness color
  let written := switches s.lastKeyboard brightness
  let s := if written then s.writeKeyboard brightness ok else s
  ({ s with lastKeyboard := brightness }, !written || ok)

/-- `set_light_buttons`, and whether it succeeds.  The result of the write to the file of the
buttons is overwritten. -/
def Globals.setLightButtons (s : Globals) (color : Nat) (ok : Bool) : Globals × Bool :=
  let brightness := rgbToBrightness color
  let written := switches s.lastButton brightness
  let s := if written then s.writeKeyboard brightness ok else s
  ({ s with lastButton := brightness }, !written || ok)

/-- A request, with the outcome of the write to `KEYBOARD_FILE`. -/
inductive Request
  | keyboard (color : Nat) (ok : Bool)
  | buttons (color : Nat) (ok : Bool)

/-- The state after a request. -/
def Globals.next (s : Globals) : Request → Option Globals
  | .keyboard color ok => some (s.setLightKeyboard color ok).1
  | .buttons color ok => some (s.setLightButtons color ok).1

/-- The states after all sequences of requests that meet a condition. -/
def Globals.ReachableWith (Cond : Globals → Request → Prop) : Globals → Prop :=
  Reachable (· = .init) fun s r s' => Cond s r ∧ s.next r = some s'

/-- The condition: a request for the keyboard is written with success if it is written, and a
request for the buttons that is written switches to what the keyboard was switched to last. -/
def Globals.Orderly (s : Globals) : Request → Prop
  | .keyboard color ok => switches s.lastKeyboard (rgbToBrightness color) = true → ok = true
  | .buttons color ok => switches s.lastButton (rgbToBrightness color) = true → ok = true →
    0 ≤ s.lastKeyboard → (rgbToBrightness color = 0 ↔ s.lastKeyboard = 0)

instance (s : Globals) : DecidablePred s.Orderly := fun r => by
  cases r <;> exact inferInstanceAs (Decidable (_ → _))

/-! ## The file -/

/-- The last value written is zero exactly if the keyboard light was switched off last. -/
def Globals.Agrees (s : Globals) : Prop :=
  0 ≤ s.lastKeyboard → ∃ v, s.keyboardFile = some v ∧ (v = 0 ↔ s.lastKeyboard = 0)

open Globals

variable {s : Globals} {color : Nat} {ok : Bool}

lemma written_eq_zero (brightness : Nat) :
    (if brightness = 0 then 0 else 255) = 0 ↔ brightness = 0 := by
  split_ifs with h <;> simp [h]

lemma Globals.Agrees.setLightKeyboard (h : s.Agrees)
    (hok : (s.setLightKeyboard color ok).2 = true) : (s.setLightKeyboard color ok).1.Agrees := by
  intro _
  simp only [Globals.setLightKeyboard] at hok ⊢
  cases hw : switches s.lastKeyboard (rgbToBrightness color) with
  | true =>
    obtain rfl : ok = true := by simpa [hw] using hok
    exact ⟨_, rfl, (written_eq_zero _).trans Int.natCast_eq_zero.symm⟩
  | false =>
    simp only [switches, Bool.or_eq_false_iff, Bool.and_eq_false_iff, decide_eq_false_iff_not] at hw
    obtain ⟨v, hv, hzero⟩ := h (by omega)
    exact ⟨v, hv, hzero.trans (by omega)⟩

lemma Globals.Agrees.next (h : s.Agrees) {r : Request} (hr : s.Orderly r) {s' : Globals}
    (hn : s.next r = some s') : s'.Agrees := by
  cases r with
  | keyboard color ok =>
    obtain rfl := Option.some.inj hn
    refine h.setLightKeyboard ?_
    simp only [Globals.setLightKeyboard]
    cases hw : switches s.lastKeyboard (rgbToBrightness color) with
    | true => exact hr hw
    | false => rfl
  | buttons color ok =>
    obtain rfl := Option.some.inj hn
    simp only [Globals.setLightButtons]
    cases hw : switches s.lastButton (rgbToBrightness color) with
    | true =>
      cases ok with
      | true => exact fun hlast => ⟨_, rfl, (written_eq_zero _).trans (hr hw rfl hlast)⟩
      | false => exact h
    | false => exact h

/-- **The keyboard light.**  After requests that meet the condition, a request for the keyboard that
succeeds leaves a last value that is zero exactly if the requested brightness is. -/
theorem keyboard_light_right (hs : ReachableWith Orderly s) (color : Nat)
    (ok : Bool) (hok : (s.setLightKeyboard color ok).2 = true) :
    ∃ v, (s.setLightKeyboard color ok).1.keyboardFile = some v ∧
      (v ≠ 0 ↔ rgbToBrightness color ≠ 0) := by
  have hinv : s.Agrees := by
    refine hs.invariant Globals.Agrees ?_ fun s r s' h hn => h.next hn.1 hn.2
    rintro _ rfl hlast
    exact absurd hlast (by decide)
  obtain ⟨v, hv, hzero⟩ := hinv.setLightKeyboard hok (Int.natCast_nonneg _)
  exact ⟨v, hv, not_congr (hzero.trans Int.natCast_eq_zero)⟩

/-- The keyboard and the buttons are switched on, and then the keyboard is made brighter. -/
theorem keyboard_light_sample : ∃ s : Globals, s.lastButton = 127 ∧
      ∃ v, (s.setLightKeyboard 0xffffff true).1.keyboardFile = some v ∧
        (v ≠ 0 ↔ rgbToBrightness 0xffffff ≠ 0) := by
  obtain ⟨s, hs, hbutton, hok⟩ : ∃ s, ReachableWith Orderly s ∧
      s.lastButton = 127 ∧ (s.setLightKeyboard 0xffffff true).2 = true :=
    exists_of_run rfl [.keyboard 0x7f7f7f true, .buttons 0x7f7f7f true] (by decide +kernel)
  exact ⟨s, hbutton, keyboard_light_right hs _ _ hok⟩

/-- **The buttons switch the keyboard off**, and a request to have it on succeeds without a write.
The same happens after a request whose write failed. -/
theorem keyboard_light_stays_off : (∃ s, ReachableWith (fun _ _ => True) s ∧
      (s.setLightKeyboard 0xffffff true).2 = true ∧
      (s.setLightKeyboard 0xffffff true).1.keyboardFile = some 0) ∧
    ∃ s, ReachableWith (fun _ _ => True) s ∧ (s.setLightKeyboard 0xffffff true).2 = true ∧
      (s.setLightKeyboard 0xffffff true).1.keyboardFile = none :=
  ⟨exists_of_run rfl [.keyboard 0xffffff true, .buttons 0 true] (by decide +kernel),
    exists_of_run rfl [.keyboard 0xffffff false] (by decide +kernel)⟩

end Solana.Lights
