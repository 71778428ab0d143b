import ResourceGraph.Proofs.Origin
import ResourceGraph.Proofs.ParentPath

/-!
# Children of ignored resources

A resource is dropped when the collection of one of its parents is marked as left out, so one may
expect that an ignored resource keeps no child.  Two look-ups stand in the way.  The resource takes
its mark from the collection that `findRoot` gives, which is the one with a slash at the end if both
are declared.  Its child is checked against `findPath?`, which takes the one without a slash first.

They agree unless both spellings are declared and the mark stands at the one with the slash alone
(`ignored_iff_markedWithSlash`).  On such a document an ignored resource can keep a child.
-/

namespace ResourceGraph

/-! ## Ignored parents -/

/-- A resource lists an instance path, up to slashes at its end, as that of one of its parents. -/
def ResourceDescriptor.ListsParent (resource : ResourceDescriptor) (path : String)
    (parent : Parent) : Prop :=
  parent ∈ resource.parents ∧ Path.trimSlashes path = Path.trimSlashes parent.instancePath

namespace Document

/-- A collection is declared without and with a slash, and only the latter is marked as left out. -/
def MarkedWithSlash (document : Document) (rootPath : String) : Prop :=
  ∃ plain marked, document.paths.get? rootPath = some plain ∧ plain.isIgnored = false ∧
    document.paths.get? (rootPath ++ "/") = some marked ∧ marked.isIgnored = true

variable {document : Document} {selection : Selection} {findings : Findings}

/-- **Two look-ups of one collection.**  A resource whose own collection path prefers the slash is
ignored, though its child has been checked against the collection without it, exactly if the mark
stands at the former alone. -/
theorem ignored_iff_markedWithSlash {owner nested : ResourceDescriptor} {parent : Parent}
    (h : document.resources selection = .ok findings) (howner : owner ∈ findings.resources)
    (hnested : nested ∈ findings.resources)
    (hlists : nested.ListsParent owner.instancePath parent) :
    owner.ignored = true ↔ document.MarkedWithSlash parent.rootPath := by
  obtain ⟨hparent, hpath⟩ := hlists
  obtain ⟨candidate, hcandidate, hdescribes, -⟩ := exists_candidate_of_mem_resources h howner
  obtain ⟨hroot, -, hdeclared⟩ := candidate_eq_ok hcandidate
  obtain ⟨child, -, hchild, hfault⟩ := exists_candidate_of_mem_resources h hnested
  obtain ⟨item, hitem, hkept⟩ := (Parent.fault?_eq_none_iff.mp hfault parent hparent).2
  rw [hchild.parents] at hparent
  rw [hdescribes.ignored]
  have hfound := hdeclared.root
  unfold findPath? at hitem
  rcases Path.findRoot_of_mem_parents hparent hpath hroot with hslash | ⟨hundeclared, hplain⟩
  · rw [hslash] at hfound
    constructor
    · intro hmarked
      cases hget : document.paths.get? parent.rootPath with
      | some plain =>
          rw [hget] at hitem
          cases hitem
          exact ⟨_, _, hget, hkept, hfound, hmarked⟩
      | none =>
          -- without a collection that has no slash both look-ups give the same item
          rw [hget, hfound] at hitem
          cases hitem
          rw [hkept] at hmarked
          cases hmarked
    · rintro ⟨plain, marked, -, -, hget, hmarked⟩
      cases hfound.symm.trans hget
      exact hmarked
  · rw [hplain] at hfound
    have hnone : document.paths.get? (parent.rootPath ++ "/") = none := by
      simpa [declares, Table.has] using hundeclared
    rw [hfound] at hitem
    cases hitem
    constructor
    · intro hmarked
      rw [hkept] at hmarked
      cases hmarked
    · rintro ⟨plain, marked, -, -, hget, -⟩
      rw [hnone] at hget
      cases hget

end Document

/-! ## A collection declared twice -/

namespace Sample

/-- Networks whose collection is declared twice and marked once, and a resource nested under
them. -/
def networks : Document :=
  { paths := [("/v1/cdns/", collection [("x-terraform-exclude-resource", .bool true)]),
      ("/v1/cdns", collection []), ("/v1/cdns/{id}", readable),
      ("/v1/cdns/{id}/rules", collection []), ("/v1/cdns/{id}/rules/{rule}", readable)] }

/-- The run on the networks keeps the ignored resource and the one nested under it. -/
theorem exists_networks_findings : ∃ findings owner nested parent,
    networks.resources {} = .ok findings ∧ findings.resources = [owner, nested] ∧
      owner.ignored = true ∧ parent.rootPath = "/v1/cdns" ∧
      nested.ListsParent owner.instancePath parent := by
  have hrun : (networks.resources {}).toOption.map (fun findings =>
      findings.resources.map fun resource => (resource.ignored, resource.instancePath,
        resource.parents.map fun parent => (parent.rootPath, parent.instancePath))) =
      some [(true, "/v1/cdns/{id}", []),
        (false, "/v1/cdns/{id}/rules/{rule}", [("/v1/cdns", "/v1/cdns/{id}")])] := by
    decide +kernel
  obtain ⟨findings, hfindings, hresult⟩ := exists_of_toOption_map_eq_some hrun
  obtain ⟨owner, others, howner, hfirst, hothers⟩ := List.map_eq_cons_iff.mp hresult
  obtain ⟨nested, rest, rfl, hsecond, hrest⟩ := List.map_eq_cons_iff.mp hothers
  obtain rfl := List.map_eq_nil_iff.mp hrest
  simp only [Prod.mk.injEq] at hfirst hsecond
  obtain ⟨parent, none, hparents, hparent, -⟩ := List.map_eq_cons_iff.mp hsecond.2.2
  obtain ⟨hroot, hinstance⟩ := Prod.mk.inj hparent
  refine ⟨findings, owner, nested, parent, hfindings, howner, hfirst.1, hroot, ?_, ?_⟩
  · simp [hparents]
  · rw [hfirst.2.1, hinstance]

end Sample

/-- **When an ignored resource keeps a child.**  In a run that returns, a resource under which
another one is nested is ignored exactly if its collection is declared with and without a slash and
only the one with the slash is marked as left out.  So where no collection is declared in this way,
no resource is nested under an ignored one. -/
theorem Document.ignored_with_child {document : Document} {selection : Selection}
    {findings : Findings} (h : document.resources selection = .ok findings) :
    (∀ owner ∈ findings.resources, ∀ nested ∈ findings.resources, ∀ parent,
        nested.ListsParent owner.instancePath parent →
          (owner.ignored = true ↔ document.MarkedWithSlash parent.rootPath)) ∧
      ((∀ rootPath, ¬ document.MarkedWithSlash rootPath) →
        ∀ owner ∈ findings.resources, owner.ignored = true →
          ∀ nested ∈ findings.resources, ∀ parent,
            ¬ nested.ListsParent owner.instancePath parent) := by
  refine ⟨fun owner howner nested hnested parent hlists =>
    ignored_iff_markedWithSlash h howner hnested hlists, ?_⟩
  intro hunmarked owner howner hignored nested hnested parent hlists
  have hmarked := (ignored_iff_markedWithSlash h howner hnested hlists).mp hignored
  exact hunmarked parent.rootPath hmarked

namespace Sample

/-- The mark on the networks is on the collection with the slash alone. -/
theorem networks_ignored_with_child : ∃ findings owner nested parent,
    networks.resources {} = .ok findings ∧ findings.resources = [owner, nested] ∧
      nested.ListsParent owner.instancePath parent ∧ parent.rootPath = "/v1/cdns" ∧
      owner.ignored = true ∧ networks.MarkedWithSlash "/v1/cdns" := by
  obtain ⟨findings, owner, nested, parent, hfindings, hresources, hignored, hroot, hlists⟩ :=
    exists_networks_findings
  obtain ⟨hmarked, -⟩ := Document.ignored_with_child hfindings
  refine ⟨findings, owner, nested, parent, hfindings, hresources, hlists, hroot, hignored, ?_⟩
  rw [← hroot]
  exact (hmarked owner (by simp [hresources]) nested (by simp [hresources]) parent hlists).mp
    hignored

/-- **An ignored resource can keep a child.**  The networks are ignored, and a resource is nested
under them. -/
theorem exists_child_of_ignored : ¬ ∀ (document : Document) (selection : Selection)
    (findings : Findings), document.resources selection = .ok findings →
      ∀ owner ∈ findings.resources, owner.ignored = true →
        ∀ nested ∈ findings.resources, ∀ parent,
          ¬ nested.ListsParent owner.instancePath parent := by
  intro hall
  obtain ⟨findings, owner, nested, parent, hfindings, hresources, hignored, -, hlists⟩ :=
    exists_networks_findings
  exact hall networks {} findings hfindings owner (by simp [hresources]) hignored nested
    (by simp [hresources]) parent hlists

end Sample

end ResourceGraph
