import ModelForge.Graph.Compile
import ModelForge.Hash.Sha256

/-!
# Fingerprints of repositories

The fingerprint of a repository is the digest of its name and of the paths and contents of its
source files, in their fixed order.
-/

namespace ModelForge

namespace Repository

/-- What a source file adds to the digest: its path below the repository and its content. -/
def fingerprintPart (d : Disk) (r : Repository) (p : Path) : Except Failure Octets := do
  return Utf8.encode (r.root.textBelow p) ++ (← Disk.orFail (d.read p))

/-- The octets that the fingerprint of a repository digests. -/
def fingerprintInput (d : Disk) (r : Repository) : Except Failure Octets := do
  let parts ← (← Disk.orFail (r.sources d)).mapM (r.fingerprintPart d)
  return Utf8.encode r.name ++ parts.flatten

/-- The fingerprint of a repository. -/
def fingerprint (d : Disk) (r : Repository) : Except Failure String := do
  return Sha256.hexDigest (← r.fingerprintInput d)

end Repository

namespace RepositorySet

/-- The fingerprints of all members by name. -/
def fingerprints (d : Disk) (s : RepositorySet) : Except Failure (List (String × String)) :=
  s.members.mapM fun r => do return (r.name, ← r.fingerprint d)

end RepositorySet

end ModelForge
