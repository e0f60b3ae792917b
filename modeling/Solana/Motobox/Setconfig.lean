import Mathlib.Tactic.SplitIfs

/-!
# Failing configurations

`setconfig_main` copies the update package into the cache, writes the requested id into the file of
the pending id and sets up the recovery; if that fails it writes the old id back.  `lstat` is taken
to find the file exactly if it is there.
-/

namespace Solana.Motobox

/-- The outcomes of the calls of `set_config`; `written` is the number of bytes written. -/
structure ConfigEnv where
  folderOk : Bool
  unlinkOk : Bool
  openOk : Bool
  written : Nat

def ConfigEnv.opens (env : ConfigEnv) (file : Option (List Char)) : Bool :=
  env.folderOk && (file.isNone || env.unlinkOk) && env.openOk

/-- `set_config`: what the file holds then, and whether it succeeds. -/
def setConfig (env : ConfigEnv) (confid : List Char) (file : Option (List Char)) :
    Option (List Char) × Bool :=
  if env.opens file then (some (confid.take env.written), confid.length ≤ env.written)
  else (if env.folderOk && (file.isNone || env.unlinkOk) then none else file, false)

inductive Status
  | success
  | failed
  | needsReconfig

/-- The outcomes of the calls of `setconfig_main`, and what `getconfig` returns.  `copied` says that
`copy_bota_package_to_cache` leaves a part of the package in the cache. -/
structure SetconfigEnv where
  oldConfid : Option (List Char)
  copyOk : Bool
  copied : Bool
  config : ConfigEnv
  recoveryOk : Bool
  revert : ConfigEnv
  removed : Bool

/-- A file holds the id or a part of it. -/
def Holds (confid : List Char) (file : Option (List Char)) : Prop :=
  ∃ text, file = some text ∧ text ≠ [] ∧ text <+: confid

/-- An error other than `needsReconfig` leaves neither the id, unless it was there before, nor the
package. -/
def Clean (confid : List Char) (before : Option (List Char)) :
    Status × Option (List Char) × Bool → Prop
  | (.failed, file, left) => (Holds confid file → Holds confid before) ∧ left = false
  | _ => True

/-- The condition.  A copy that fails leaves nothing; a write of the id that fails writes nothing;
there is an old id to go back to, which is no part of the requested one; and the package can be
removed. -/
def SetconfigEnv.Orderly (env : SetconfigEnv) (confid : List Char) (file : Option (List Char)) :
    Prop :=
  if env.copyOk then
    let fine := env.copied = true → env.removed = true
    if env.config.opens file ∧ confid.length ≤ env.config.written then
      env.recoveryOk = true ∨ match env.oldConfid with
        | none => (confid ≠ [] → Holds confid file) ∧ fine
        | some old => (setConfig env.revert old (some confid)).2 = false ∨
          (Holds confid (some old) → Holds confid file) ∧ fine
    else (env.config.opens file = true ∧ 0 < env.config.written → Holds confid file) ∧ fine
  else env.copied = false

variable {env : ConfigEnv} {confid : List Char} {file : Option (List Char)}

end Solana.Motobox
