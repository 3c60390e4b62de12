import MetastoreProbe.Proofs.Text.Replacement
import MetastoreProbe.Settings

/-!
# Hosts of pods and hosts of principals

The host of a metastore's first pod starts with a part that names the pod
(`ConnectionDefaults.podPrefix`), and the domain of the namespace follows
(`ConnectionDefaults.domain`).  A principal has another name in place of the first part.

`KerberosSettings.principalHost` replaces that part wherever it stands and not only in front.
`KerberosSettings.principalHost_rewrites` says what this makes of any host, and on which hosts it is
more than rewriting the front: those that have the part in them once more.  The host of a pod is
none of these unless the domain of its namespace has the whole part in it
(`ConnectionDefaults.principalHost_hostForNamespace`), however much the part repeats itself.
-/

namespace MetastoreProbe

/-! ## Any host -/

namespace KerberosSettings

variable {k : KerberosSettings} {host rest : String}

theorem principalHost_eq (named : k.podHostPrefix ≠ "") (host : String) :
    k.principalHost host = Text.replaceAll host k.podHostPrefix k.principalHostPrefix := by
  rw [principalHost, if_neg]
  rwa [String.isEmpty_iff]

/-- A host is left alone just when the name of the pod does not stand in it, or names the principal
too. -/
theorem principalHost_eq_self_iff (named : k.podHostPrefix ≠ "") :
    k.principalHost host = host ↔
      k.podHostPrefix = k.principalHostPrefix ∨ Text.contains host k.podHostPrefix = false := by
  rw [principalHost_eq named, Text.replaceAll_eq_self_iff named]

/-- What stands behind the name of the pod is left alone just when the name does not stand there
once more, or names the principal too. -/
theorem principalHost_append_iff (named : k.podHostPrefix ≠ "") :
    k.principalHost (k.podHostPrefix ++ rest) = k.principalHostPrefix ++ rest ↔
      k.podHostPrefix = k.principalHostPrefix ∨ Text.contains rest k.podHostPrefix = false := by
  rw [principalHost_eq named, Text.replaceAll_append named, String.append_right_inj,
    Text.replaceAll_eq_self_iff named]

/-- **What is made of a host**, when the name of a pod is set.

The host consists of parts with the name of the pod between them, found from left to right, and the
host of the principal has the same parts with the principal's name between them.  So a host that
starts with the pod's name has nothing else rewritten just when the name does not stand in the rest
of it, and a host is left alone just when the name does not stand anywhere in it; unless both names
are the same.  Both forms of the principal have this host behind the name of the service. -/
theorem principalHost_rewrites (k : KerberosSettings) (named : k.podHostPrefix ≠ "")
    (host : String) :
    (∃ parts, Text.Around k.podHostPrefix.toList host.toList parts ∧
      (k.principalHost host).toList = k.principalHostPrefix.toList.intercalate parts) ∧
    (∀ rest, host = k.podHostPrefix ++ rest →
      (k.principalHost host = k.principalHostPrefix ++ rest ↔
        k.podHostPrefix = k.principalHostPrefix ∨ Text.contains rest k.podHostPrefix = false)) ∧
    (k.principalHost host = host ↔
      k.podHostPrefix = k.principalHostPrefix ∨ Text.contains host k.podHostPrefix = false) ∧
    k.servicePrincipal host = k.serviceName ++ "/" ++ k.principalHost host ∧
    k.hostBasedService host = k.serviceName ++ "@" ++ k.principalHost host := by
  refine ⟨?_, ?_, principalHost_eq_self_iff named, rfl, rfl⟩
  · have nonempty := Text.toList_ne_nil named
    obtain ⟨parts, around⟩ := Text.exists_around nonempty host.toList
    refine ⟨parts, around, ?_⟩
    rw [principalHost_eq named, Text.replaceAll, String.toList_ofList,
      around.replaceFrom_eq nonempty]
  · rintro rest rfl
    exact principalHost_append_iff named

/-- The name of the pod stands in two places that overlap, and only the first one is replaced. -/
theorem principalHost_rewrites_of_overlap :
    ({ podHostPrefix := "aa", principalHostPrefix := "b" } : KerberosSettings).principalHost "aaa" =
      "b" ++ "a" :=
  ((principalHost_rewrites _ (by decide) "aaa").2.1 "a" (by decide)).2 (.inr (by decide))

/-- The name of the pod is replaced where it stands behind another one, and where something else
stands in front of it. -/
theorem principalHost_of_other_occurrences :
    let k : KerberosSettings := { podHostPrefix := "hive", principalHostPrefix := "metastore" }
    "hive.hive-prod.svc" = k.podHostPrefix ++ ".hive-prod.svc" ∧
      k.principalHost "hive.hive-prod.svc" = "metastore.metastore-prod.svc" ∧
      k.principalHost "hive.hive-prod.svc" ≠ k.principalHostPrefix ++ ".hive-prod.svc" ∧
      ¬ k.podHostPrefix.toList <+: "proxy.hive.svc".toList ∧
      k.principalHost "proxy.hive.svc" = "proxy.metastore.svc" ∧
      k.principalHost "proxy.hive.svc" ≠ "proxy.hive.svc" := by
  decide

end KerberosSettings

/-! ## The host of a pod -/

namespace ConnectionDefaults

/-- The part of the first pod's host that names the pod. -/
def podPrefix (c : ConnectionDefaults) : String :=
  let service := s!"{c.namespaceService}-{c.roleGroup}"
  s!"{service}-0.{service}"

/-- The part of a pod's host that tells its namespace. -/
def domain (space : String) : String := s!".{space}.svc.cluster.local"

variable (c : ConnectionDefaults) (k : KerberosSettings) (space : String)

theorem hostForNamespace_eq : c.hostForNamespace space = c.podPrefix ++ domain space := by
  rw [← String.toList_inj]
  simp [hostForNamespace, podPrefix, domain]

theorem podPrefix_ne_empty : c.podPrefix ≠ "" := by
  simp [podPrefix, toString]

/-- **The host of a pod is mapped to the principal's name in the same domain**, if it is the pod's
name that the principal replaces: just when the domain does not have that name in it, or the
principal has the same one. -/
theorem principalHost_hostForNamespace (pod : k.podHostPrefix = c.podPrefix) :
    k.principalHost (c.hostForNamespace space) = k.principalHostPrefix ++ domain space ↔
      c.podPrefix = k.principalHostPrefix ∨
        Text.contains (domain space) c.podPrefix = false := by
  have named : k.podHostPrefix ≠ "" := pod ▸ c.podPrefix_ne_empty
  rw [hostForNamespace_eq, ← pod, KerberosSettings.principalHost_append_iff named]

/-- The pod's name stands in this host a second time, across the end of the first one. -/
theorem principalHost_hostForNamespace_of_overlap :
    let c : ConnectionDefaults := { namespaceService := "a.", roleGroup := "a" }
    let k : KerberosSettings := { podHostPrefix := "a.-a-0.a.-a" }
    c.hostForNamespace "-a-0.a.-a" = "a.-a-0.a.-" ++ c.podPrefix ++ ".svc.cluster.local" ∧
      k.principalHost (c.hostForNamespace "-a-0.a.-a") = "hive.-a-0.a.-a.svc.cluster.local" :=
  ⟨by decide, (principalHost_hostForNamespace _ _ _ (by decide)).2 (.inr (by decide))⟩

end ConnectionDefaults

end MetastoreProbe
