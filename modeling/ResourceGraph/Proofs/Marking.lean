import ResourceGraph.Proofs.Order.Shuffled
import ResourceGraph.Proofs.Stages

/-!
# Marking one collection as left out

Whether a collection is left out is said by one extension of the operation that creates its members.
This extension is read in two places only.  A resource takes over the mark of its own collection,
and a nested resource is dropped when the collection of one of its parents is marked.

So let a collection be marked that has not been marked before.  Up to the checks of its parents
every instance path is described as before, but for the mark of its own collection (`described_eq`).
The checks themselves change for those parents whose collection is looked up to the marked one
(`rootFault?_eq`), and the first of them is where a nested resource is now dropped, unless it has
been dropped by then for another reason (`Document.DroppedBefore`).
-/

namespace ResourceGraph

/-! ## What is read besides the mark -/

/-- The extensions agree on everything but the mark of what is left out. -/
def Extensions.AgreeButMark (extensions other : Extensions) : Prop :=
  ∀ wanted, Text.lower wanted ≠ Text.lower Extension.excludeResource.name →
    other.lookup? wanted = extensions.lookup? wanted

theorem Extension.lower_name_ne {extension : Extension} (h : extension ≠ .excludeResource) :
    Text.lower extension.name ≠ Text.lower Extension.excludeResource.name := by
  cases extension with
  | excludeResource => exact absurd rfl h
  | _ => decide +kernel

theorem Extensions.AgreeButMark.lookup?_eq {extensions other : Extensions} {extension : Extension}
    (h : extensions.AgreeButMark other) (hother : extension ≠ .excludeResource) :
    other.lookup? extension.name = extensions.lookup? extension.name :=
  h _ (Extension.lower_name_ne hother)

theorem Extensions.AgreeButMark.text?_eq {extensions other : Extensions} {extension : Extension}
    (h : extensions.AgreeButMark other) (hother : extension ≠ .excludeResource) :
    other.text? extension = extensions.text? extension := by
  unfold text? textNamed?
  rw [h.lookup?_eq hother]

/-- The operation is the same but for the mark. -/
structure Operation.AgreeButMark (operation other : Operation) : Prop where
  same : other = { operation with extensions := other.extensions }
  extensions : operation.extensions.AgreeButMark other.extensions

/-- The path item is the same but for the mark of what its members are created by. -/
structure PathItem.AgreeButMark (item other : PathItem) : Prop where
  same : other = { item with post := other.post }
  post : Option.Rel Operation.AgreeButMark item.post other.post

theorem Operation.AgreeButMark.refl (operation : Operation) : operation.AgreeButMark operation :=
  ⟨rfl, fun _ _ => rfl⟩

theorem PathItem.AgreeButMark.refl (item : PathItem) : item.AgreeButMark item := by
  refine ⟨rfl, ?_⟩
  cases item.post with
  | none => exact .none
  | some operation => exact .some (.refl operation)

/-- Both documents are the same but for the mark of the collection, which is set in the second one
alone. -/
structure Document.MarkedAt (document marked : Document) (collection : String) : Prop where
  same : marked = { document with paths := marked.paths }
  elsewhere : ∀ path, path ≠ collection → marked.paths.get? path = document.paths.get? path
  collection : ∃ item create extensions,
    document.paths.get? collection = some item ∧ item.post = some create ∧
      create.extensions.isSet .excludeResource = false ∧
      marked.paths.get? collection = some { item with post := some { create with extensions } } ∧
      create.extensions.AgreeButMark extensions ∧ extensions.isSet .excludeResource = true

/-! ## Candidates -/

section Operation

variable {operation other : Operation} {item otherItem : PathItem} {document marked : Document}

theorem Operation.AgreeButMark.timeout_eq (h : operation.AgreeButMark other) (path : String) :
    other.timeout path = operation.timeout path := by
  have hother : Extension.resourceTimeout ≠ .excludeResource := by decide
  have hvalue := h.extensions.lookup?_eq hother
  have hlabel : other.label path = operation.label path := by rw [h.same]; rfl
  unfold Operation.timeout
  rw [hvalue, hlabel]

theorem Operation.AgreeButMark.descriptor_eq (h : operation.AgreeButMark other)
    (hsecurity : marked.security = document.security) (method : Method) (path : String) :
    other.descriptor marked method path = operation.descriptor document method path := by
  unfold Operation.descriptor
  rw [h.timeout_eq, hsecurity, h.same]
  rfl

theorem Operation.AgreeButMark.payload_eq (h : operation.AgreeButMark other) :
    Compliance.payload other = Compliance.payload operation := by
  rw [h.same]
  rfl

theorem PathItem.AgreeButMark.resourceName_eq (h : item.AgreeButMark otherItem)
    (rootPath : String) : otherItem.resourceName rootPath = item.resourceName rootPath := by
  have hname : otherItem.preferredName? = item.preferredName? := by
    have hpost := h.post
    unfold preferredName?
    generalize item.post = create at hpost ⊢
    generalize otherItem.post = otherCreate at hpost ⊢
    cases hpost with
    | none => rfl
    | some hcreate => exact hcreate.extensions.text?_eq (by decide)
  unfold resourceName
  rw [hname]

end Operation

/-- Two candidates are the same but for marks. -/
structure Candidate.AgreeButMark (candidate other : Candidate) : Prop where
  same : other = { candidate with
    root := other.root, instanceItem := other.instanceItem, create := other.create }
  root : candidate.root.AgreeButMark other.root
  instanceItem : candidate.instanceItem.AgreeButMark other.instanceItem
  create : candidate.create.AgreeButMark other.create

/-- A candidate is described in the same way whatever is marked, but for the mark of its own
collection. -/
theorem Candidate.AgreeButMark.descriptor_eq {candidate other : Candidate}
    {document marked : Document} (h : candidate.AgreeButMark other)
    (hsecurity : marked.security = document.security) :
    other.descriptor marked = (candidate.descriptor document).map fun descriptor =>
      { descriptor with ignored := other.root.isIgnored } := by
  have hsame := h.same
  have hput : other.instanceItem.put = candidate.instanceItem.put := by rw [h.instanceItem.same]
  have hdelete : other.instanceItem.delete = candidate.instanceItem.delete := by
    rw [h.instanceItem.same]
  have hoptional (operation : Option Operation) (method : Method) (path : String) :
      Operation.optionalDescriptor operation marked method path =
        Operation.optionalDescriptor operation document method path := by
    cases operation with
    | none => rfl
    | some operation =>
        rw [Operation.optionalDescriptor, Operation.optionalDescriptor,
          (Operation.AgreeButMark.refl operation).descriptor_eq hsecurity]
  have hread : other.read = candidate.read := by rw [hsame]
  have hroot : other.rootPath = candidate.rootPath := by rw [hsame]
  have hinstance : other.instancePath = candidate.instancePath := by rw [hsame]
  have hidentifier : other.identifier = candidate.identifier := by rw [hsame]
  have hschema : other.schema = candidate.schema := by rw [hsame]
  have hcomputed : other.computedOnly = candidate.computedOnly := by rw [hsame]
  unfold Candidate.descriptor
  rw [hroot, hinstance, hread, hput, hdelete, hidentifier, hschema, hcomputed, hoptional, hoptional,
    h.create.descriptor_eq hsecurity, (Operation.AgreeButMark.refl _).descriptor_eq hsecurity,
    h.root.resourceName_eq, h.create.extensions.text?_eq (by decide)]
  cases candidate.create.descriptor document .post candidate.rootPath with
  | error rejection => rfl
  | ok create =>
  cases candidate.read.descriptor document .get candidate.instancePath with
  | error rejection => rfl
  | ok read =>
  cases Operation.optionalDescriptor candidate.instanceItem.put document .put
      candidate.instancePath with
  | error rejection => rfl
  | ok update =>
  cases Operation.optionalDescriptor candidate.instanceItem.delete document .delete
      candidate.instancePath with
  | error rejection => rfl
  | ok delete => rfl

/-- A descriptor takes the mark over from its collection. -/
theorem Candidate.descriptor_map_ignored (candidate : Candidate) (document : Document) :
    (candidate.descriptor document).map (fun descriptor =>
      { descriptor with ignored := candidate.root.isIgnored }) = candidate.descriptor document := by
  cases hdescriptor : candidate.descriptor document with
  | error rejection => rfl
  | ok descriptor =>
      obtain ⟨hdescribes, -⟩ := Candidate.descriptor_eq_ok_iff.mp hdescriptor
      rw [← hdescribes.ignored]
      rfl

/-! ## Marked descriptors -/

/-- An outcome with its descriptors changed. -/
def Outcome.map (change : ResourceDescriptor → ResourceDescriptor) : Outcome → Outcome
  | accepted resources => .accepted (resources.map change)
  | rejected rejection => .rejected rejection
  | failed error => .failed error

/-- A descriptor that is marked as left out. -/
def ResourceDescriptor.leftOut (descriptor : ResourceDescriptor) : ResourceDescriptor :=
  { descriptor with ignored := true }

/-- The mark takes no part in spreading a descriptor over its regions. -/
theorem ResourceDescriptor.spread_leftOut (descriptor : ResourceDescriptor)
    (extensions : Extensions) :
    descriptor.leftOut.spread extensions =
      (descriptor.spread extensions).map (List.map leftOut) :=
  spread_change rfl fun _ => rfl

theorem ResourceDescriptor.parents_ownMark {own : Prop} [Decidable own]
    (descriptor : ResourceDescriptor) :
    ((if own then leftOut else id) descriptor).parents = descriptor.parents := by
  split <;> rfl

theorem Outcome.map_id (outcome : Outcome) : outcome.map id = outcome := by
  cases outcome with
  | accepted resources => rw [map, List.map_id]
  | rejected rejection => rfl
  | failed error => rfl

/-! ## Dropping a nested resource -/

/-- A nested resource is dropped before the parent after some others is looked at: it cannot be
described, the instance path of some parent is not declared, or something is wrong with the
collection of one of those others. -/
inductive Document.DroppedBefore (document : Document) (path : String) (others : List Parent) :
    Rejection → Prop
  | described {rejection : Rejection} (h : document.described path = .error rejection) :
      DroppedBefore document path others rejection
  | parentInstance {descriptor : ResourceDescriptor} {cause : RejectionCause}
      (hdescribed : document.described path = .ok descriptor)
      (hfault : Parent.instanceFault? document descriptor.parents = some cause) :
      DroppedBefore document path others ⟨path, cause⟩
  | parentRoot {descriptor : ResourceDescriptor} {cause : RejectionCause}
      (hdescribed : document.described path = .ok descriptor)
      (hinstances : Parent.instanceFault? document descriptor.parents = none)
      (hfault : others.findSome? (Parent.rootFault? document) = some cause) :
      DroppedBefore document path others ⟨path, cause⟩

section Checks

variable {document : Document} {path : String} {rejection : Rejection}

theorem Document.DroppedBefore.outcome_eq {before after : List Parent}
    (h : document.DroppedBefore path before rejection)
    (hparents : ∀ descriptor, document.described path = .ok descriptor →
      descriptor.parents = before ++ after) : document.outcome path = .rejected rejection := by
  cases h with
  | described h => exact outcome_eq_of_described_eq_error h
  | parentInstance hdescribed hfault =>
      rw [outcome_eq_of_described_eq_ok hdescribed, Parent.fault?_eq, hfault]
      rfl
  | @parentRoot descriptor cause hdescribed hinstances hfault =>
      rw [outcome_eq_of_described_eq_ok hdescribed, Parent.fault?_eq, hinstances,
        hparents descriptor hdescribed, List.findSome?_append, hfault]
      rfl

/-- What is not dropped before a parent is described, and nothing is wrong with what is looked at
before this parent. -/
theorem Document.exists_described_of_not_droppedBefore {before : List Parent}
    (h : ∀ rejection, ¬ document.DroppedBefore path before rejection) :
    ∃ descriptor, document.described path = .ok descriptor ∧
      Parent.instanceFault? document descriptor.parents = none ∧
      before.findSome? (Parent.rootFault? document) = none := by
  cases hdescribed : document.described path with
  | error rejection => exact absurd (.described hdescribed) (h rejection)
  | ok descriptor =>
      have hinstances : Parent.instanceFault? document descriptor.parents = none := by
        refine Option.eq_none_iff_forall_ne_some.mpr fun cause hcause => ?_
        exact h _ (.parentInstance hdescribed hcause)
      refine ⟨descriptor, rfl, hinstances, ?_⟩
      refine Option.eq_none_iff_forall_ne_some.mpr fun cause hcause => ?_
      exact h _ (.parentRoot hdescribed hinstances hcause)

end Checks

/-! ## Marked documents -/

section Marked

variable {document marked : Document} {collection rootPath path : String}

namespace Document.MarkedAt

variable (h : document.MarkedAt marked collection)
include h

theorem rel_get? (path : String) :
    Option.Rel PathItem.AgreeButMark (document.paths.get? path) (marked.paths.get? path) := by
  by_cases hpath : path = collection
  · obtain ⟨item, create, extensions, hitem, hcreate, -, hmarked, hagree, -⟩ := h.collection
    rw [hpath, hitem, hmarked]
    refine .some ⟨rfl, ?_⟩
    rw [hcreate]
    exact .some ⟨rfl, hagree⟩
  · rw [h.elsewhere path hpath]
    cases document.paths.get? path with
    | none => exact .none
    | some item => exact .some (.refl item)

theorem declares_eq : marked.declares = document.declares := by
  funext path
  have hitem := h.rel_get? path
  unfold declares Table.has
  generalize document.paths.get? path = item at hitem ⊢
  generalize marked.paths.get? path = other at hitem ⊢
  cases hitem <;> rfl

theorem isIgnored_collection {item : PathItem}
    (hitem : document.paths.get? collection = some item) : item.isIgnored = false := by
  obtain ⟨found, create, extensions, hfound, hcreate, hunmarked, -⟩ := h.collection
  cases hitem.symm.trans hfound
  simpa [PathItem.isIgnored, hcreate] using hunmarked

theorem isIgnored_eq {item other : PathItem} (hitem : document.paths.get? path = some item)
    (hother : marked.paths.get? path = some other) :
    other.isIgnored = if path = collection then true else item.isIgnored := by
  split
  · next hpath =>
      obtain ⟨found, create, extensions, -, -, -, hmarked, -, hset⟩ := h.collection
      rw [hpath] at hother
      cases hother.symm.trans hmarked
      simpa [PathItem.isIgnored] using hset
  · next hpath =>
      rw [h.elsewhere path hpath, hitem] at hother
      cases hother
      rfl

/-! ## Instance paths before the checks of their parents -/

theorem validate_matches (rootPath path : String) {item other : PathItem}
    (hitem : item.AgreeButMark other) :
    Matches (· = ·) Candidate.AgreeButMark (Candidate.validate document rootPath path item)
      (Candidate.validate marked rootPath path other) := by
  have hget : other.get = item.get := by rw [hitem.same]
  have hroot := h.rel_get? rootPath
  unfold Candidate.validate
  rw [hget]
  generalize document.paths.get? rootPath = root at hroot ⊢
  generalize marked.paths.get? rootPath = otherRoot at hroot ⊢
  cases item.get with
  | none => exact .error rfl
  | some read =>
      cases hroot with
      | none => exact .error rfl
      | @some root otherRoot hroot =>
          have hpost := hroot.post
          simp only
          generalize root.post = create at hpost ⊢
          generalize otherRoot.post = otherCreate at hpost ⊢
          cases hpost with
          | none => exact .error rfl
          | @some create otherCreate hcreate =>
              simp only [hcreate.payload_eq]
              cases Compliance.payload create with
              | error fault => exact .error rfl
              | ok payload =>
                  simp only [Except.mapError, bind, Except.bind]
                  cases Compliance.identifierOf payload.1 with
                  | error cause => exact .error rfl
                  | ok identifier => exact .ok ⟨rfl, hroot, hitem, hcreate⟩

theorem candidate_matches (path : String) :
    Matches (· = ·) Candidate.AgreeButMark (document.candidate path) (marked.candidate path) := by
  have hitem := h.rel_get? path
  unfold Document.candidate
  rw [h.declares_eq]
  cases Path.findRoot document.declares path with
  | error rejection => exact .error rfl
  | ok rootPath =>
      simp only [bind, Except.bind]
      generalize document.paths.get? path = item at hitem ⊢
      generalize marked.paths.get? path = other at hitem ⊢
      cases hitem with
      | none => exact .error rfl
      | some hitem => exact (h.validate_matches rootPath path hitem).mapError_eq _

/-- Up to the checks of its parents an instance path is described as before, but for the mark of its
own collection. -/
theorem described_eq (hroot : Path.findRoot document.declares path = .ok rootPath) :
    marked.described path = (document.described path).map
      (if rootPath = collection then ResourceDescriptor.leftOut else id) := by
  have hmatches := h.candidate_matches path
  cases hcandidate : document.candidate path with
  | error rejection =>
      rw [hcandidate] at hmatches
      generalize hother : marked.candidate path = other at hmatches
      cases hmatches with
      | error herror =>
          rw [described_of_candidate_error hcandidate, described_of_candidate_error hother, herror]
          rfl
  | ok candidate =>
      rw [hcandidate] at hmatches
      obtain ⟨other, hother, hagree⟩ := hmatches.exists_of_ok_left
      obtain ⟨hfound, -, hdeclared⟩ := candidate_eq_ok hcandidate
      obtain ⟨-, -, hdeclaredOther⟩ := candidate_eq_ok hother
      cases hroot.symm.trans hfound
      have hsecurity : marked.security = document.security := by rw [h.same]
      have hpath : other.rootPath = candidate.rootPath := by rw [hagree.same]
      have hitem : marked.paths.get? candidate.rootPath = some other.root :=
        hpath ▸ hdeclaredOther.root
      rw [described_of_candidate hcandidate, described_of_candidate hother,
        hagree.descriptor_eq hsecurity, h.isIgnored_eq hdeclared.root hitem]
      split
      · rfl
      · rw [candidate.descriptor_map_ignored]
        cases candidate.descriptor document <;> rfl

/-! ## Parents -/

theorem lookedUpTo?_eq (path : String) : marked.lookedUpTo? path = document.lookedUpTo? path := by
  unfold lookedUpTo?
  rw [h.declares_eq]

theorem instanceFault?_eq (parents : List Parent) :
    Parent.instanceFault? marked parents = Parent.instanceFault? document parents := by
  have hinstance : ∀ path,
      (marked.findPath? path).isNone = (document.findPath? path).isNone := by
    intro path
    rw [findPath?_eq, findPath?_eq, h.lookedUpTo?_eq]
    cases document.lookedUpTo? path with
    | none => rfl
    | some found =>
        have hitem := h.rel_get? found
        simp only [Option.bind_some]
        generalize document.paths.get? found = item at hitem ⊢
        generalize marked.paths.get? found = other at hitem ⊢
        cases hitem <;> rfl
  unfold Parent.instanceFault?
  simp only [hinstance]

/-- The collection of a parent is looked at as before unless it is the marked one. -/
theorem rootFault?_eq {parent : Parent}
    (hparent : document.lookedUpTo? parent.rootPath ≠ some collection) :
    Parent.rootFault? marked parent = Parent.rootFault? document parent := by
  have hfound : marked.findPath? parent.rootPath = document.findPath? parent.rootPath := by
    rw [findPath?_eq, findPath?_eq, h.lookedUpTo?_eq]
    cases hlookup : document.lookedUpTo? parent.rootPath with
    | none => rfl
    | some found =>
        refine h.elsewhere found fun hsame => hparent ?_
        rw [hlookup, hsame]
  unfold Parent.rootFault?
  rw [hfound]

/-- A parent whose collection is the marked one was sound before and is left out now. -/
theorem rootFault?_collection {parent : Parent}
    (hparent : document.lookedUpTo? parent.rootPath = some collection) :
    Parent.rootFault? document parent = none ∧
      Parent.rootFault? marked parent = some (.ignoredParentRoot parent.rootPath) := by
  obtain ⟨item, create, extensions, hitem, hcreate, -, hmarked, -, hset⟩ := h.collection
  have hfound : document.findPath? parent.rootPath = some item := by
    rw [findPath?_eq, hparent]
    exact hitem
  have hother : marked.findPath? parent.rootPath =
      some { item with post := some { create with extensions } } := by
    rw [findPath?_eq, h.lookedUpTo?_eq, hparent]
    exact hmarked
  constructor
  · simp [Parent.rootFault?, hfound, h.isIgnored_collection hitem]
  · simp [Parent.rootFault?, hother, PathItem.isIgnored, hset]

theorem findSome?_rootFault?_eq {parents : List Parent}
    (hparents : ∀ parent ∈ parents, document.lookedUpTo? parent.rootPath ≠ some collection) :
    parents.findSome? (Parent.rootFault? marked) =
      parents.findSome? (Parent.rootFault? document) :=
  findSome?_congr fun parent hparent => h.rootFault?_eq (hparents parent hparent)

end Document.MarkedAt

/-! ## Outcomes -/

namespace Document.MarkedAt

variable (h : document.MarkedAt marked collection)
include h

/-- An instance path none of whose parents has the marked collection has the outcome that it had
before, but for the mark of its own collection. -/
theorem outcome_eq (hroot : Path.findRoot document.declares path = .ok rootPath)
    (hparents : ∀ parent ∈ Path.parents rootPath,
      document.lookedUpTo? parent.rootPath ≠ some collection) :
    marked.outcome path = (document.outcome path).map
      (if rootPath = collection then ResourceDescriptor.leftOut else id) := by
  have hmarked := h.described_eq hroot
  cases hdescribed : document.described path with
  | error rejection =>
      rw [hdescribed] at hmarked
      rw [outcome_eq_of_described_eq_error hdescribed, outcome_eq_of_described_eq_error hmarked]
      rfl
  | ok descriptor =>
      rw [hdescribed] at hmarked
      have hextensions : marked.extensions = document.extensions := by rw [h.same]
      have hfault : Parent.fault? marked descriptor.parents =
          Parent.fault? document descriptor.parents := by
        rw [parents_of_described hroot hdescribed, Parent.fault?_eq, Parent.fault?_eq,
          h.instanceFault?_eq, h.findSome?_rootFault?_eq hparents]
      rw [outcome_eq_of_described_eq_ok hdescribed, outcome_eq_of_described_eq_ok hmarked,
        hextensions]
      by_cases hown : rootPath = collection
      · have hsame : descriptor.leftOut.parents = descriptor.parents := rfl
        rw [if_pos hown, hsame, hfault, ResourceDescriptor.spread_leftOut]
        cases Parent.fault? document descriptor.parents with
        | some cause => rfl
        | none => cases descriptor.spread document.extensions <;> rfl
      · rw [if_neg hown, Outcome.map_id, id, hfault]

/-- A resource that is dropped before the first parent with the marked collection is looked at is
dropped for the same reason now. -/
theorem droppedBefore {before : List Parent} {rejection : Rejection}
    (hroot : Path.findRoot document.declares path = .ok rootPath)
    (hbefore : ∀ other ∈ before, document.lookedUpTo? other.rootPath ≠ some collection)
    (hdropped : document.DroppedBefore path before rejection) :
    marked.DroppedBefore path before rejection := by
  have hmarked := h.described_eq hroot
  cases hdropped with
  | described hdescribed =>
      rw [hdescribed] at hmarked
      exact .described hmarked
  | parentInstance hdescribed hfault =>
      rw [hdescribed] at hmarked
      refine .parentInstance hmarked ?_
      rw [h.instanceFault?_eq, ResourceDescriptor.parents_ownMark, hfault]
  | parentRoot hdescribed hinstances hfault =>
      rw [hdescribed] at hmarked
      refine .parentRoot hmarked ?_ ?_
      · rw [h.instanceFault?_eq, ResourceDescriptor.parents_ownMark, hinstances]
      · rw [h.findSome?_rootFault?_eq hbefore, hfault]

/-- A nested resource that is not dropped before is dropped for the mark of the first parent with
the marked collection. -/
theorem outcome_eq_ignored {before after : List Parent} {parent : Parent}
    (hroot : Path.findRoot document.declares path = .ok rootPath)
    (hsplit : Path.parents rootPath = before ++ parent :: after)
    (hbefore : ∀ other ∈ before, document.lookedUpTo? other.rootPath ≠ some collection)
    (hparent : document.lookedUpTo? parent.rootPath = some collection)
    (hnone : ∀ rejection, ¬ document.DroppedBefore path before rejection) :
    marked.outcome path = .rejected ⟨path, .ignoredParentRoot parent.rootPath⟩ := by
  obtain ⟨descriptor, hdescribed, hinstances, hroots⟩ :=
    exists_described_of_not_droppedBefore hnone
  have hmarked := h.described_eq hroot
  rw [hdescribed] at hmarked
  have hfault : Parent.fault? marked descriptor.parents =
      some (.ignoredParentRoot parent.rootPath) := by
    rw [Parent.fault?_eq, h.instanceFault?_eq, hinstances, parents_of_described hroot hdescribed,
      hsplit, List.findSome?_append, h.findSome?_rootFault?_eq hbefore, hroots,
      List.findSome?_cons, (h.rootFault?_collection hparent).2]
    rfl
  rw [outcome_eq_of_described_eq_ok hmarked, ResourceDescriptor.parents_ownMark, hfault]

/-- If it has been rejected all the same, this was for the collection of a later parent. -/
theorem later_fault {before after : List Parent} {parent : Parent} {rejection : Rejection}
    (hroot : Path.findRoot document.declares path = .ok rootPath)
    (hsplit : Path.parents rootPath = before ++ parent :: after)
    (hparent : document.lookedUpTo? parent.rootPath = some collection)
    (hnone : ∀ rejection, ¬ document.DroppedBefore path before rejection)
    (hrejected : document.outcome path = .rejected rejection) :
    after.findSome? (Parent.rootFault? document) = some rejection.cause := by
  obtain ⟨descriptor, hdescribed, hinstances, hroots⟩ :=
    exists_described_of_not_droppedBefore hnone
  have hfault : Parent.fault? document descriptor.parents =
      after.findSome? (Parent.rootFault? document) := by
    rw [Parent.fault?_eq, hinstances, parents_of_described hroot hdescribed, hsplit,
      List.findSome?_append, hroots, List.findSome?_cons, (h.rootFault?_collection hparent).1]
    rfl
  rw [outcome_eq_of_described_eq_ok hdescribed, hfault] at hrejected
  split at hrejected
  · next cause hcause =>
      cases hrejected
      exact hcause
  · split at hrejected <;> cases hrejected

end Document.MarkedAt

/-- **Marking a collection affects its own resource and those nested under it.**  Let a collection
be marked as left out, and let an instance path have a collection.

If no parent of this collection is looked up to the marked one, then what becomes of the path is the
same as before, except that its descriptors are marked if its own collection is.

If some parent is looked up to the marked collection, then the path is rejected.  The reason is the
one from before if the path has been dropped before the first such parent is looked at, and the mark
on this parent otherwise.  In the latter case the path may have been rejected before as well, but
only for the collection of a later parent. -/
theorem Document.marking_isolated (h : document.MarkedAt marked collection)
    (hroot : Path.findRoot document.declares path = .ok rootPath) :
    ((∀ parent ∈ Path.parents rootPath, document.lookedUpTo? parent.rootPath ≠ some collection) →
      marked.outcome path =
        if rootPath = collection then (document.outcome path).map ResourceDescriptor.leftOut
        else document.outcome path) ∧
    ((∃ parent ∈ Path.parents rootPath, document.lookedUpTo? parent.rootPath = some collection) →
      ∃ before parent after, Path.parents rootPath = before ++ parent :: after ∧
        (∀ other ∈ before, document.lookedUpTo? other.rootPath ≠ some collection) ∧
        document.lookedUpTo? parent.rootPath = some collection ∧
        ((∃ rejection, document.DroppedBefore path before rejection ∧
            document.outcome path = .rejected rejection ∧
            marked.outcome path = .rejected rejection) ∨
          (∀ rejection, ¬ document.DroppedBefore path before rejection) ∧
            marked.outcome path = .rejected ⟨path, .ignoredParentRoot parent.rootPath⟩ ∧
            ∀ rejection, document.outcome path = .rejected rejection →
              after.findSome? (Parent.rootFault? document) = some rejection.cause)) := by
  constructor
  · intro hparents
    rw [h.outcome_eq hroot hparents]
    split
    · rfl
    · exact Outcome.map_id _
  intro hsome
  obtain ⟨before, parent, after, hsplit, hbefore, hparent⟩ := exists_split_at_first hsome
  refine ⟨before, parent, after, hsplit, hbefore, hparent, ?_⟩
  by_cases hdropped : ∃ rejection, document.DroppedBefore path before rejection
  · obtain ⟨rejection, hdropped⟩ := hdropped
    have hparents : ∀ descriptor, document.described path = .ok descriptor →
        descriptor.parents = before ++ parent :: after := fun descriptor hdescribed =>
      (parents_of_described hroot hdescribed).trans hsplit
    have hmarkedParents : ∀ descriptor, marked.described path = .ok descriptor →
        descriptor.parents = before ++ parent :: after := fun descriptor hdescribed =>
      (parents_of_described (h.declares_eq ▸ hroot) hdescribed).trans hsplit
    exact Or.inl ⟨rejection, hdropped, hdropped.outcome_eq hparents,
      (h.droppedBefore hroot hbefore hdropped).outcome_eq hmarkedParents⟩
  · have hnone := not_exists.mp hdropped
    exact Or.inr ⟨hnone, h.outcome_eq_ignored hroot hsplit hbefore hparent hnone,
      fun rejection hrejected => h.later_fault hroot hsplit hparent hnone hrejected⟩

end Marked

/-! ## A collection in the middle of a chain -/

namespace Sample

/-- Terraces with tables on them, and chairs at the tables whose regions are declared nowhere. -/
def terraces (marks : Extensions) : Document :=
  { paths := [("/v1/terraces", collection []), ("/v1/terraces/{id}", readable),
      ("/v1/terraces/{id}/tables", collection marks),
      ("/v1/terraces/{id}/tables/{table}", readable),
      ("/v1/terraces/{id}/tables/{table}/chairs",
        collection [("x-terraform-resource-host", .text "chairs.$\x7bregion\x7d.api.com")]),
      ("/v1/terraces/{id}/tables/{table}/chairs/{chair}", readable)] }

/-- The mark of what is left out. -/
def leftOutMark : Extensions := [("x-terraform-exclude-resource", .bool true)]

theorem terraces_markedAt :
    (terraces []).MarkedAt (terraces leftOutMark) "/v1/terraces/{id}/tables" := by
  refine ⟨rfl, fun path hpath => ?_, collection [], creation [], leftOutMark, rfl, rfl,
    by decide +kernel, rfl, fun wanted hwanted => ?_, by decide +kernel⟩
  · have hother : (path == "/v1/terraces/{id}/tables") = false := beq_eq_false_iff_ne.mpr hpath
    simp only [terraces, Table.get?, List.lookup_cons, hother]
  · have hname : Extension.excludeResource.name = "x-terraform-exclude-resource" := rfl
    rw [hname] at hwanted
    have hother : (Text.lower "x-terraform-exclude-resource" == Text.lower wanted) = false :=
      beq_eq_false_iff_ne.mpr hwanted.symm
    simp [leftOutMark, creation, Extensions.lookup?, hother]

/-- When the tables are marked, the terraces stay as they are, the tables are marked themselves, and
the chairs are rejected before their regions end the analysis. -/
theorem terraces_marking_isolated :
    (terraces []).MarkedAt (terraces leftOutMark) "/v1/terraces/{id}/tables" ∧
      (terraces leftOutMark).outcome "/v1/terraces/{id}" =
        (terraces []).outcome "/v1/terraces/{id}" ∧
      (terraces leftOutMark).outcome "/v1/terraces/{id}/tables/{table}" =
        ((terraces []).outcome "/v1/terraces/{id}/tables/{table}").map
          ResourceDescriptor.leftOut ∧
      (terraces []).outcome "/v1/terraces/{id}/tables/{table}/chairs/{chair}" =
        .failed (.missingRegions "region" "x-terraform-resource-regions-region") ∧
      (terraces leftOutMark).outcome "/v1/terraces/{id}/tables/{table}/chairs/{chair}" =
        .rejected ⟨"/v1/terraces/{id}/tables/{table}/chairs/{chair}",
          .ignoredParentRoot "/v1/terraces/{id}/tables"⟩ := by
  have hterraces : Path.findRoot (terraces []).declares "/v1/terraces/{id}" =
      .ok "/v1/terraces" := by
    decide +kernel
  have htables : Path.findRoot (terraces []).declares "/v1/terraces/{id}/tables/{table}" =
      .ok "/v1/terraces/{id}/tables" := by
    decide +kernel
  have hchairs : Path.findRoot (terraces []).declares
      "/v1/terraces/{id}/tables/{table}/chairs/{chair}" =
        .ok "/v1/terraces/{id}/tables/{table}/chairs" := by
    decide +kernel
  have hfailed : (terraces []).outcome "/v1/terraces/{id}/tables/{table}/chairs/{chair}" =
      .failed (.missingRegions "region" "x-terraform-resource-regions-region") := by
    have hrun : ((terraces []).resource
        "/v1/terraces/{id}/tables/{table}/chairs/{chair}").toOption.map (fun descriptor =>
          failure? (Region.ofHost? descriptor.host (terraces []).extensions)) =
        some (some (.missingRegions "region" "x-terraform-resource-regions-region")) := by
      decide +kernel
    obtain ⟨descriptor, hdescriptor, hregions⟩ := exists_of_toOption_map_eq_some hrun
    rw [Document.outcome, hdescriptor]
    simp only [failure?_eq_some_iff.mp hregions]
  refine ⟨terraces_markedAt, ?_, ?_, hfailed, ?_⟩
  · rw [(Document.marking_isolated terraces_markedAt hterraces).1 (by decide +kernel),
      if_neg (by decide +kernel)]
  · rw [(Document.marking_isolated terraces_markedAt htables).1 (by decide +kernel), if_pos rfl]
  · obtain ⟨before, parent, after, hsplit, -, hlookup, hcases⟩ :=
      (Document.marking_isolated terraces_markedAt hchairs).2 (by decide +kernel)
    have htablesAlone : ∀ other ∈ Path.parents "/v1/terraces/{id}/tables/{table}/chairs",
        (terraces []).lookedUpTo? other.rootPath = some "/v1/terraces/{id}/tables" →
          other.rootPath = "/v1/terraces/{id}/tables" := by
      decide +kernel
    have hparent := htablesAlone parent (by simp [hsplit]) hlookup
    rcases hcases with ⟨rejection, -, hbefore, -⟩ | ⟨-, hrejected, -⟩
    · cases hfailed.symm.trans hbefore
    · rw [hrejected, hparent]

end Sample

end ResourceGraph
