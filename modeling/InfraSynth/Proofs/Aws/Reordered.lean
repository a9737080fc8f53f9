import InfraSynth.Proofs.Aws.Blind
import InfraSynth.Proofs.Aws.Kept
import InfraSynth.Proofs.Aws.PolicyOrder

/-!
# Attributes from values whose keys are in another order

The order of keys in the attributes that are given is kept nowhere but in policies.
So attributes that differ in nothing but the order of keys are both turned down, or
both decoded; then they are the same up to the order of keys in policies, they are
checked alike, and the blocks written for them differ in nothing but the texts of
their policies: `ResourceType.agree_decode_of_sameUpToOrder`.

## Strategy

For the seven types that hold no policy the decoded attributes are equal, so that
there is nothing left to show.  For policies and roles the relation on attributes says
which documents may be reordered, and the checks and the block go through the places
where these occur.
-/

namespace InfraSynth

open Outcome (Agree)

/-! ## Blocks with documents -/

/-- Two values of a shape are the same but for the texts of documents, which hold the
same up to the order of keys. -/
inductive Schema.Alike {S : Type} (schema : Schema S) : Shape S → Json → Json → Prop
  | same (shape : Shape S) (value : Json) : Alike schema shape value value
  | document {value other : Json} (h : value.SameUpToOrder other) :
      Alike schema .document (.string value.compact) (.string other.compact)
  | struct {s : S} {entries others : Entries Json}
      (hkeys : Entries.keys entries = Entries.keys others)
      (h : ∀ pair ∈ entries.zip others,
        Alike schema (schema.shape s pair.1.1) pair.1.2 pair.2.2) :
      Alike schema (.struct s) (.object entries) (.object others)
  | list {s : S} {items others : List Json} (hlength : items.length = others.length)
      (h : ∀ pair ∈ items.zip others, Alike schema (.struct s) pair.1 pair.2) :
      Alike schema (.list s) (.array items) (.array others)

namespace Fields

variable {S : Type} {schema : Schema S} {s : S} {αs : List Type}

/-- Each field writes the same for two rows, but for the texts of documents. -/
inductive WritesAlike (schema : Schema S) (s : S) :
    {αs : List Type} → Fields Json DecodeError αs → Row αs → Row αs → Prop
  | same {αs : List Type} (fields : Fields Json DecodeError αs) (row : Row αs) :
      WritesAlike schema s fields row row
  | skip {α : Type} {αs : List Type} {field : JsonField α} {rest : Fields Json DecodeError αs}
      {x : α} {xs ys : Row αs} (h : WritesAlike schema s rest xs ys) :
      WritesAlike schema s (.cons field rest) (x, xs) (x, ys)
  | cons {α : Type} {αs : List Type} {field : JsonField α} {rest : Fields Json DecodeError αs}
      {x y : α} {xs ys : Row αs}
      (hfield : Option.Rel (schema.Alike (schema.shape s field.name)) (field.write x)
        (field.write y))
      (h : WritesAlike schema s rest xs ys) :
      WritesAlike schema s (.cons field rest) (x, xs) (y, ys)

variable {fields : Fields Json DecodeError αs} {row other : Row αs}

theorem WritesAlike.forall₂_write (h : fields.WritesAlike schema s row other) :
    List.Forall₂ (fun entry second => entry.1 = second.1 ∧
      schema.Alike (schema.shape s entry.1) entry.2 second.2)
      (fields.write row) (fields.write other) := by
  induction h with
  | same fields row => exact List.forall₂_same.mpr fun _ _ => ⟨rfl, .same _ _⟩
  | @skip _ _ field _ x _ _ _ ih =>
      rw [write, write]
      cases field.write x with
      | none => exact ih
      | some json => exact .cons ⟨rfl, .same _ _⟩ ih
  | @cons _ _ field _ x y _ _ hfield _ ih =>
      rw [write, write]
      generalize field.write x = first at hfield ⊢
      generalize field.write y = second at hfield ⊢
      cases hfield with
      | none => exact ih
      | some hvalue => exact .cons ⟨rfl, hvalue⟩ ih

theorem WritesAlike.struct (h : fields.WritesAlike schema s row other) :
    schema.Alike (.struct s) (.object (fields.write row)) (.object (fields.write other)) := by
  have hentries := h.forall₂_write
  obtain ⟨-, hpairs⟩ := List.forall₂_iff_zip.mp hentries
  exact .struct (map_eq_of_forall₂ hentries fun _ _ hpair => hpair.1)
    fun ⟨_, _⟩ hpair => (hpairs hpair).2

end Fields

/-- A list that is written only if it is not empty. -/
theorem Field.listed_alike {S : Type} {schema : Schema S} {s : S} {α : Type} {name : String}
    {item : JsonCodec α} {R : α → α → Prop} {xs ys : List α} (h : List.Forall₂ R xs ys)
    (hitem : ∀ x y, R x y → schema.Alike (.struct s) (item.write x) (item.write y)) :
    Option.Rel (schema.Alike (.list s)) ((Field.listed name item).write xs)
      ((Field.listed name item).write ys) := by
  cases h with
  | nil => exact .none
  | @cons x y xs ys hxy hrest =>
      have hitems : List.Forall₂ (schema.Alike (.struct s)) ((x :: xs).map item.write)
          ((y :: ys).map item.write) := by
        rw [List.forall₂_map_left_iff, List.forall₂_map_right_iff]
        exact .cons (hitem x y hxy) (hrest.imp hitem)
      obtain ⟨hlength, hpairs⟩ := List.forall₂_iff_zip.mp hitems
      exact .some (.list hlength fun ⟨_, _⟩ hpair => hpairs hpair)

namespace Aws

/-! ## Policies -/

/-- The second policy has the document of the first one with keys in another order, and
is the same otherwise. -/
structure IamPolicy.Reordered (first second : IamPolicy) : Prop where
  policy : first.policy.Reordered second.policy
  others : { first with policy := second.policy } = second

namespace IamPolicy

variable {first second : IamPolicy}

theorem respects : IamPolicy.record.codec.Respects Reordered := by
  have hpolicy : (Field.required "policy" PolicyDocument.codec).Respects
      PolicyDocument.Reordered := .required PolicyDocument.respects
  have hfields : IamPolicy.record.fields.Respects (.cons Eq <| .cons Eq <| .cons Eq <| .cons Eq <|
      .cons PolicyDocument.Reordered <| .cons Eq .nil) := by
    repeat refine .skip ?_
    refine .cons hpolicy ?_
    exact .skip .nil
  refine .record hfields ?_
  rintro ⟨_, _, _, _, policy, _, -⟩ ⟨_, _, _, _, other, _, -⟩ ⟨rfl, rfl, rfl, rfl, hpolicy, rfl, -⟩
  exact ⟨hpolicy, rfl⟩

/-- The length of a document does not depend on the order of its keys either. -/
theorem Reordered.check_eq (h : Reordered first second) :
    Resource.check first = Resource.check second := by
  have hlength : Check.length "policy" first.policy.value.compact 1 6144 =
      Check.length "policy" second.policy.value.compact 1 6144 := by
    rw [Check.length, Check.length, h.policy.sameUpToOrder.length_compact_eq]
  rw [← h.others]
  simp only [Resource.check, violations, warnings, h.policy.check_eq, h.policy.allowsWildcard_eq,
    hlength]

theorem Reordered.alike_block (h : Reordered first second) :
    layout.Alike (.struct .iamPolicy) (Resource.block first).toJson
      (Resource.block second).toJson := by
  rw [← h.others]
  have hfields : IamPolicy.record.fields.WritesAlike layout .iamPolicy (IamPolicy.record.row first)
      (IamPolicy.record.row { first with policy := second.policy }) := by
    iterate 4 refine .skip ?_
    exact .cons (.some (.document h.policy.sameUpToOrder)) (.same _ _)
  exact hfields.struct

end IamPolicy

/-! ## Roles -/

/-- The second policy has the document of the first one with keys in another order. -/
structure InlinePolicy.Reordered (first second : InlinePolicy) : Prop where
  policy : first.policy.Reordered second.policy
  name : first.name = second.name

namespace InlinePolicy

variable {first second : InlinePolicy}

theorem respects : InlinePolicy.record.codec.Respects Reordered := by
  have hfields : InlinePolicy.record.fields.Respects
      (.cons Eq <| .cons PolicyDocument.Reordered .nil) := by
    refine .skip ?_
    exact .cons (.required PolicyDocument.respects) .nil
  refine .record hfields ?_
  rintro ⟨_, policy, -⟩ ⟨_, other, -⟩ ⟨rfl, hpolicy, -⟩
  exact ⟨hpolicy, rfl⟩

theorem Reordered.checkInline_eq (h : Reordered first second) (path : String) :
    IamRole.checkInline path first = IamRole.checkInline path second := by
  rw [IamRole.checkInline, IamRole.checkInline, h.policy.check_eq, h.name]

theorem Reordered.alike_write (h : Reordered first second) :
    layout.Alike (.struct .inlinePolicy) (InlinePolicy.record.codec.write first)
      (InlinePolicy.record.codec.write second) := by
  obtain ⟨name, policy⟩ := first
  obtain ⟨_, other⟩ := second
  obtain ⟨hpolicy, rfl⟩ := h
  have hfields : InlinePolicy.record.fields.WritesAlike layout .inlinePolicy
      (name, policy, ()) (name, other, ()) := by
    refine .skip ?_
    exact .cons (.some (.document hpolicy.sameUpToOrder)) (.same _ _)
  exact hfields.struct

end InlinePolicy

/-- The second role has the policies of the first one with keys in another order, and is
the same otherwise. -/
structure IamRole.Reordered (first second : IamRole) : Prop where
  trustPolicy : first.trustPolicy.Reordered second.trustPolicy
  inlinePolicies : List.Forall₂ InlinePolicy.Reordered first.inlinePolicies second.inlinePolicies
  others : { first with
    trustPolicy := second.trustPolicy, inlinePolicies := second.inlinePolicies } = second

namespace IamRole

variable {first second : IamRole}

theorem respects : IamRole.record.codec.Respects Reordered := by
  have htrust : (Field.required "assume_role_policy" PolicyDocument.codec).Respects
      PolicyDocument.Reordered := .required PolicyDocument.respects
  have hinline : (Field.listed "inline_policy" InlinePolicy.record.codec).Respects
      (List.Forall₂ InlinePolicy.Reordered) := .listed InlinePolicy.respects
  have hfields : IamRole.record.fields.Respects (.cons Eq <| .cons Eq <|
      .cons PolicyDocument.Reordered <| .cons Eq <| .cons Eq <| .cons Eq <| .cons Eq <|
      .cons Eq <| .cons (List.Forall₂ InlinePolicy.Reordered) <| .cons Eq <| .cons Eq .nil) := by
    repeat refine .skip ?_
    refine .cons htrust ?_
    repeat refine .skip ?_
    refine .cons hinline ?_
    repeat refine .skip ?_
    exact .nil
  refine .record hfields ?_
  rintro ⟨_, _, trust, _, _, _, _, _, inline, _, _, -⟩ ⟨_, _, other, _, _, _, _, _, others, _, _, -⟩
    ⟨rfl, rfl, htrust, rfl, rfl, rfl, rfl, rfl, hinline, rfl, rfl, -⟩
  exact ⟨htrust, hinline, rfl⟩

theorem Reordered.check_eq (h : Reordered first second) :
    Resource.check first = Resource.check second := by
  have hnames : first.inlinePolicies.map (·.name) = second.inlinePolicies.map (·.name) :=
    map_eq_of_forall₂ h.inlinePolicies fun _ _ hinline => hinline.name
  have hinline : Path.flatMapItems "inline_policy" first.inlinePolicies checkInline =
      Path.flatMapItems "inline_policy" second.inlinePolicies checkInline :=
    Path.flatMapItems_eq_of_forall₂ h.inlinePolicies fun _ _ hinline =>
      hinline.checkInline_eq
  rw [← h.others]
  simp only [Resource.check, violations, checkBasics, checkPolicies, h.trustPolicy.check_eq, hnames,
    hinline]

theorem Reordered.alike_block (h : Reordered first second) :
    layout.Alike (.struct .iamRole) (Resource.block first).toJson
      (Resource.block second).toJson := by
  rw [← h.others]
  have hfields : IamRole.record.fields.WritesAlike layout .iamRole (IamRole.record.row first)
      (IamRole.record.row { first with
        trustPolicy := second.trustPolicy, inlinePolicies := second.inlinePolicies }) := by
    iterate 2 refine .skip ?_
    refine .cons (.some (.document h.trustPolicy.sameUpToOrder)) ?_
    iterate 5 refine .skip ?_
    refine .cons (Field.listed_alike h.inlinePolicies fun _ _ hinline => hinline.alike_write) ?_
    exact .same _ _
  exact hfields.struct

end IamRole

/-! ## All types -/

namespace ResourceType

/-- The second attributes are the first ones with keys of policies in another order. -/
def Reordered : (type : ResourceType) → type.Attributes → type.Attributes → Prop
  | iamRole => IamRole.Reordered
  | iamPolicy => IamPolicy.Reordered
  | targetGroup | webAcl | metricAlarm | bucket | vpc | subnet | securityGroup => Eq

theorem respects (type : ResourceType) :
    (Resource.record : JsonRecord type.Attributes).codec.Respects type.Reordered := by
  cases type with
  | iamRole => exact IamRole.respects
  | iamPolicy => exact IamPolicy.respects
  | targetGroup => exact (inferInstance : TargetGroup.record.codec.Blind).respects
  | webAcl => exact (inferInstance : WebAcl.record.codec.Blind).respects
  | metricAlarm => exact (inferInstance : MetricAlarm.record.codec.Blind).respects
  | bucket => exact (inferInstance : Bucket.record.codec.Blind).respects
  | vpc => exact (inferInstance : Vpc.record.codec.Blind).respects
  | subnet => exact (inferInstance : Subnet.record.codec.Blind).respects
  | securityGroup => exact (inferInstance : SecurityGroup.record.codec.Blind).respects

variable {type : ResourceType} {first second : type.Attributes}

theorem Reordered.check_eq (h : type.Reordered first second) :
    Resource.check first = Resource.check second := by
  cases type with
  | iamRole => exact IamRole.Reordered.check_eq h
  | iamPolicy => exact IamPolicy.Reordered.check_eq h
  | targetGroup | webAcl | metricAlarm | bucket | vpc | subnet | securityGroup =>
      exact congrArg Resource.check h

theorem Reordered.alike_block (h : type.Reordered first second) :
    layout.Alike (.struct type.root) (Resource.block first).toJson
      (Resource.block second).toJson := by
  cases type with
  | iamRole => exact IamRole.Reordered.alike_block h
  | iamPolicy => exact IamPolicy.Reordered.alike_block h
  | targetGroup | webAcl | metricAlarm | bucket | vpc | subnet | securityGroup =>
      rw [show first = second from h]
      exact .same _ _

/-- **Values that differ in nothing but the order of keys are treated alike.**  Both are
turned down, or both are decoded, and then to the same attributes up to the order of
keys in policies; the same violations and warnings are listed in the same order, and
the blocks are the same but for the texts of policies. -/
theorem agree_decode_of_sameUpToOrder (type : ResourceType) {value other : Json}
    (hkeys : value.DistinctKeys) (h : value.SameUpToOrder other) :
    Agree (fun first second : type.Attributes =>
        type.Reordered first second ∧
        Resource.check first = Resource.check second ∧
        Resource.warnings first = Resource.warnings second ∧
        layout.Alike (.struct type.root) (Resource.block first).toJson
          (Resource.block second).toJson)
      (Resource.decode value) (Resource.decode other) := by
  have hread : Agree type.Reordered ((Resource.record : JsonRecord type.Attributes).read value)
      (Resource.record.read other) := type.respects value other ⟨hkeys, h⟩
  unfold Resource.decode
  generalize (Resource.record : JsonRecord type.Attributes).read value = first at hread ⊢
  generalize (Resource.record : JsonRecord type.Attributes).read other = second at hread ⊢
  cases hread with
  | error e f => exact .error _ _
  | ok hsame =>
      refine .ok ⟨hsame, hsame.check_eq, ?_, hsame.alike_block⟩
      rw [Resource.warnings, Resource.warnings, hsame.check_eq]

/-- The document that allows listing, with keys in another order. -/
def listingDocumentReordered : Json :=
  .object [
    ("Statement", .object [
      ("Resource", "*"),
      ("Action", "s3:List"),
      ("Effect", "Allow"),
      ("Condition", .object [("NumericLessThanEquals", .object [("s3:max-keys", .nat 10)])])]),
    ("Version", "2012-10-17")]

/-- The attributes of a policy, with keys in another order. -/
def listingValueReordered : Json :=
  .object [
    ("policy", listingDocumentReordered),
    ("tags", .object [("env", "test"), ("team", "network")]),
    ("description", .null),
    ("name", "list")]

theorem distinctKeys_listingValue : listingValue.DistinctKeys := by
  simp [listingValue, listingDocument, Json.DistinctKeys, Json.nat, Entries.keys, or_imp,
    forall_and]

theorem sameUpToOrder_listingValue : listingValue.SameUpToOrder listingValueReordered := by
  have hdocument : listingDocument.SameUpToOrder listingDocumentReordered := by
    refine .object (.cons _ (.refl _) <| .cons _ ?_ .nil) (.swap _ _ _)
    exact .object_of_perm (by decide +kernel)
  have htags : (Json.object [("team", "network"), ("env", "test")]).SameUpToOrder
      (.object [("env", "test"), ("team", "network")]) := .object_of_perm (.swap _ _ _)
  exact .object (.cons _ (.refl _) <| .cons _ (.refl _) <| .cons _ hdocument <|
    .cons _ htags .nil) (by decide +kernel)

theorem agree_decode_listingValue : ∃ first second : IamPolicy,
    Resource.decode listingValue = .ok first ∧
    Resource.decode listingValueReordered = .ok second ∧
    first ≠ second ∧ Resource.check first = Resource.check second := by
  let first : IamPolicy := { listingPolicy with
    tags := .ofEntries [("team", "network"), ("env", "test")] }
  let second : IamPolicy := { first with policy := ⟨listingDocumentReordered⟩ }
  have hfirst : Resource.decode listingValue = .ok first := by rfl
  have hsecond : Resource.decode listingValueReordered = .ok second := by rfl
  have hagree := agree_decode_of_sameUpToOrder .iamPolicy distinctKeys_listingValue
    sameUpToOrder_listingValue
  rw [hfirst, hsecond] at hagree
  exact ⟨first, second, hfirst, hsecond, by decide +kernel, hagree.of_ok.2.1⟩

end ResourceType

end Aws

end InfraSynth
