/-! # Outcomes -/

namespace ManifestPin

/-- What a run that nothing stopped came to. -/
inductive Outcome where
  /-- The manifest pins the declared version and its hash now. -/
  | updated (pinned current hash : String)
  /-- The manifest is out of date and was left so. -/
  | planned (pinned current : String)
  /-- The manifest pins the declared version already. -/
  | notNeeded (version : String)
  deriving DecidableEq, Repr

/-- The exit code of an outcome tells whether the manifest changed or has to. -/
def Outcome.exitCode : Outcome → Nat
  | .updated .. => 1
  | .planned .. => 1
  | .notNeeded _ => 0

end ManifestPin
