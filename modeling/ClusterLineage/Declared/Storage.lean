import ClusterLineage.Declared.Field

/-!
# References of storage

Claims, volumes, and the class that both can name.
-/

namespace ClusterLineage.Storage

/-- The volume and the class of a claim. -/
def claimRefs (raw : Json) : List Ref :=
  found [
    Ref.ofKind? .persistentVolume (raw.path ["spec", "volumeName"]) none,
    Ref.ofKind? .storageClass (raw.path ["spec", "storageClassName"]) none]

/-- The claim and the class of a volume. -/
def volumeRefs (raw : Json) : List Ref :=
  found [
    Ref.ofObject? (raw.path ["spec", "claimRef"]) (some Kind.persistentVolumeClaim.name),
    Ref.ofKind? .storageClass (raw.path ["spec", "storageClassName"]) none]

end ClusterLineage.Storage
