import TxnCoord.Proofs.Json.Shapes
import TxnCoord.Proofs.Uuid
import TxnCoord.Proofs.Time.Rfc3339
import TxnCoord.Recovery.Files
/-!
# A descriptor file reads back as its descriptor

The text of a descriptor file is its record in pretty JSON, and reading the file gives the
descriptor back, whenever each field holds what its type allows (`Descriptor.Valid`):
identifiers of 128 bits, version numbers of 32, a keep-alive interval of 64, and an instant
that a timestamp can hold.

Reading goes in two steps. The text reads back against the record shape as the record
itself (`readsBack_descriptor`): each field is a member whose pretty text reads back, a
nested record by `readsBack_record` and an optional one by `readsBack_some` or
`readsBack_null`. Then the record gives back the descriptor (`Descriptor.ofDecoded_toJson`),
the identifiers and the instant through their own round trips.

Main statement:

    d.Valid → Descriptor.ofFileText d.fileText = .ok d           (Descriptor.ofFileText_fileText)
-/

namespace TxnCoord

open Json Json.Reader

/-- Settings that their record can hold: a keep-alive interval of 64 bits and an identity of
128. -/
structure Config.Valid (c : Config) : Prop where
  keepAlive : ∀ n ∈ c.keepAliveMs, n ≤ u64Max
  resourceManager : c.resourceManager.value < Nat.pow 2 128

instance (c : Config) : Decidable c.Valid :=
  decidable_of_iff ((∀ n ∈ c.keepAliveMs, n ≤ u64Max) ∧ c.resourceManager.value < Nat.pow 2 128) <| by
    constructor
    · rintro ⟨h₁, h₂⟩
      exact ⟨h₁, h₂⟩
    · rintro ⟨h₁, h₂⟩
      exact ⟨h₁, h₂⟩

namespace Recovery

/-- A descriptor whose fields hold what their types allow. -/
structure Descriptor.Valid (d : Descriptor) : Prop where
  rm : d.rm.value < Nat.pow 2 128
  uow : d.uow.value < Nat.pow 2 128
  config : d.config.Valid
  major : d.version.major ≤ u32Max
  minor : d.version.minor ≤ u32Max
  patch : d.version.patch ≤ u32Max
  recordedAt : d.recordedAt.Valid

instance (d : Descriptor) : Decidable d.Valid :=
  decidable_of_iff (d.rm.value < Nat.pow 2 128 ∧ d.uow.value < Nat.pow 2 128 ∧ d.config.Valid ∧
      d.version.major ≤ u32Max ∧ d.version.minor ≤ u32Max ∧ d.version.patch ≤ u32Max ∧
      d.recordedAt.Valid) <| by
    constructor
    · rintro ⟨h₁, h₂, h₃, h₄, h₅, h₆, h₇⟩
      exact ⟨h₁, h₂, h₃, h₄, h₅, h₆, h₇⟩
    · rintro ⟨h₁, h₂, h₃, h₄, h₅, h₆, h₇⟩
      exact ⟨h₁, h₂, h₃, h₄, h₅, h₆, h₇⟩

end Recovery

/-! ## The records as members -/

/-- A member read back as it is written. -/
def Json.Reader.Member.same (key : String) (shape : Shape) (absent : Absent) (value : Json) :
    Member :=
  ⟨key, shape, absent, value, value⟩

/-- The members of a credentials record. -/
def Credentials.members (cr : Credentials) : List Member :=
  [.same "username" .text .required (.str cr.username),
    .same "password" .text .required (.str cr.password)]

/-- The value of the credentials member of settings. -/
def Config.credentialsJson (c : Config) : Json :=
  match c.credentials with
  | some cr => .obj (cr.members.map Member.written)
  | none => .null

/-- The value of the keep-alive member of settings. -/
def Config.keepAliveJson (c : Config) : Json :=
  match c.keepAliveMs with
  | some n => .nat n
  | none => .null

/-- The members of a settings record, in the order of its shape. -/
def Config.members (c : Config) : List Member :=
  [.same "root_uri" .text .required (.str c.rootUri),
    .same "credentials" (.opt Config.credentialsShape) (.fill .null) c.credentialsJson,
    .same "default_database" (.opt .text) (.fill .null) (optStr c.defaultDatabase),
    .same "user_agent" .text (.fill (.str defaultUserAgent)) (.str c.userAgent),
    .same "use_json_stream" .flag (.fill (.bool true)) (.bool c.useJsonStream),
    .same "keep_alive_interval_ms" (.opt .nat64) (.fill .null) c.keepAliveJson,
    .same "resource_manager_id" .uuid (.fill (.str (default : Uuid).render))
      (.str c.resourceManager.render)]

namespace Recovery

/-- The members of a server version record. -/
def versionMembers (v : ServerVersion) : List Member :=
  [.same "major" .nat32 .required (.nat v.major), .same "minor" .nat32 .required (.nat v.minor),
    .same "patch" .nat32 .required (.nat v.patch)]

/-- The members of a descriptor record, in the order of its shape. -/
def Descriptor.members (d : Descriptor) : List Member :=
  [.same "resource_manager_id" .uuid .required (.str d.rm.render),
    .same "unit_of_work_id" .uuid .required (.str d.uow.render),
    .same "configuration" Config.shape .required d.config.toJson,
    .same "transport" (.choice "TransportKind" ["Http", "Driver"]) .required
      (.str d.transport.debugName),
    .same "server_version" (.record "ServerVersion" ((versionMembers d.version).map Member.field))
      .required (.obj ((versionMembers d.version).map Member.written)),
    .same "database" .text .required (.str d.database),
    .same "location" (.opt .text) .required (optStr d.location),
    .same "recorded_at" .stamp .required (.str (Descriptor.renderStamp d.recordedAt))]

end Recovery

theorem Json.Reader.Member.read_same (key : String) (shape : Shape) (absent : Absent)
    (value : Json) : (Member.same key shape absent value).read = (key, value) := rfl

theorem Config.shape_members (c : Config) :
    Config.shape = .record "ExecutionConfiguration" (c.members.map Member.field) := rfl

theorem Config.toJson_members (c : Config) : c.toJson = .obj (c.members.map Member.written) := by
  cases hc : c.credentials <;> cases hk : c.keepAliveMs <;>
    simp [Config.toJson, Config.members, Config.credentialsJson, Config.keepAliveJson, hc, hk,
      Credentials.members, Member.same, Member.written]

theorem Config.read_members (c : Config) : c.members.map Member.read = c.members.map Member.written :=
  rfl

namespace Recovery

theorem descriptorShape_members (d : Descriptor) :
    descriptorShape = .record "RecoveryDescriptor" (d.members.map Member.field) := rfl

theorem Descriptor.toJson_members (d : Descriptor) : d.toJson = .obj (d.members.map Member.written) :=
  rfl

theorem Descriptor.read_members (d : Descriptor) :
    d.members.map Member.read = d.members.map Member.written := rfl

end Recovery

/-! ## Each member reads back -/

theorem readsBack_optStr (o : Option String) : ReadsBack (.opt .text) (optStr o) (optStr o) 0 2 := by
  cases o with
  | some s => exact readsBack_some (readsBack_text s) (leads_str s)
  | none => exact (readsBack_null .text).mono (Nat.le_refl 0) (by omega)

theorem readsBack_credentials (cr : Credentials) :
    ReadsBack Config.credentialsShape (.obj (cr.members.map Member.written))
      (.obj (cr.members.map Member.written)) 2 5 := by
  have h : ∀ m ∈ cr.members, ReadsBack m.shape m.value m.out 0 1 := by
    simp only [Credentials.members, List.mem_cons, List.not_mem_nil, or_false]
    rintro m (rfl | rfl) <;> exact readsBack_text _
  have hr := readsBack_record "Credentials" cr.members (by simp [Credentials.members])
    (by simp [Credentials.members, Member.same]) h
  exact hr.mono (by omega) (by simp [Credentials.members])

theorem Config.readsBack {c : Config} (hc : c.Valid) :
    ReadsBack Config.shape c.toJson c.toJson 4 15 := by
  have hcred : ReadsBack (.opt Config.credentialsShape) c.credentialsJson c.credentialsJson 2 6 := by
    unfold Config.credentialsJson
    cases c.credentials with
    | some cr => exact readsBack_some (readsBack_credentials cr) (leads_obj (by simp [Credentials.members]))
    | none => exact (readsBack_null _).mono (by omega) (by omega)
  have hkeep : ReadsBack (.opt .nat64) c.keepAliveJson c.keepAliveJson 0 2 := by
    have hk := hc.keepAlive
    unfold Config.keepAliveJson
    cases hn : c.keepAliveMs with
    | some n => exact readsBack_some (readsBack_nat64 (hk n (by simp [hn]))) (leads_nat n)
    | none => exact (readsBack_null _).mono (Nat.le_refl 0) (by omega)
  have h : ∀ m ∈ c.members, ReadsBack m.shape m.value m.out 2 6 := by
    simp only [Config.members, List.mem_cons, List.not_mem_nil, or_false]
    rintro m (rfl | rfl | rfl | rfl | rfl | rfl | rfl)
    · exact (readsBack_text _).mono (by omega) (by omega)
    · exact hcred
    · exact (readsBack_optStr _).mono (by omega) (by omega)
    · exact (readsBack_text _).mono (by omega) (by omega)
    · exact (readsBack_flag _).mono (by omega) (by omega)
    · exact hkeep.mono (by omega) (by omega)
    · exact (readsBack_uuid (Uuid.parse_render hc.resourceManager)).mono (by omega) (by omega)
  have hr := readsBack_record "ExecutionConfiguration" c.members (by simp [Config.members])
    (by simp [Config.members, Member.same]) h
  rw [← Config.shape_members, Config.read_members, ← Config.toJson_members] at hr
  exact hr.mono (by omega) (by simp [Config.members])

namespace Recovery

theorem readsBack_version {v : ServerVersion} (hmajor : v.major ≤ u32Max) (hminor : v.minor ≤ u32Max)
    (hpatch : v.patch ≤ u32Max) :
    ReadsBack (.record "ServerVersion" ((versionMembers v).map Member.field))
      (.obj ((versionMembers v).map Member.written)) (.obj ((versionMembers v).map Member.written))
      2 6 := by
  have h : ∀ m ∈ versionMembers v, ReadsBack m.shape m.value m.out 0 1 := by
    simp only [versionMembers, List.mem_cons, List.not_mem_nil, or_false]
    rintro m (rfl | rfl | rfl)
    · exact readsBack_nat32 hmajor
    · exact readsBack_nat32 hminor
    · exact readsBack_nat32 hpatch
  have hr := readsBack_record "ServerVersion" (versionMembers v) (by simp [versionMembers])
    (by simp [versionMembers, Member.same]) h
  exact hr.mono (by omega) (by simp [versionMembers])

theorem transport_mem (k : TransportKind) : k.debugName ∈ ["Http", "Driver"] := by
  cases k <;> decide

/-- The text of a valid descriptor reads back as its record. -/
theorem readsBack_descriptor {d : Descriptor} (hd : d.Valid) :
    ReadsBack descriptorShape d.toJson d.toJson 6 25 := by
  have h : ∀ m ∈ d.members, ReadsBack m.shape m.value m.out 4 15 := by
    simp only [Descriptor.members, List.mem_cons, List.not_mem_nil, or_false]
    rintro m (rfl | rfl | rfl | rfl | rfl | rfl | rfl | rfl)
    · exact (readsBack_uuid (Uuid.parse_render hd.rm)).mono (by omega) (by omega)
    · exact (readsBack_uuid (Uuid.parse_render hd.uow)).mono (by omega) (by omega)
    · exact Config.readsBack hd.config
    · exact (readsBack_choice (transport_mem d.transport)).mono (by omega) (by omega)
    · exact (readsBack_version hd.major hd.minor hd.patch).mono (by omega) (by omega)
    · exact (readsBack_text _).mono (by omega) (by omega)
    · exact (readsBack_optStr _).mono (by omega) (by omega)
    · exact (readsBack_stamp (Time.Rfc3339.parse_zulu hd.recordedAt)).mono (by omega) (by omega)
  have hr := readsBack_record "RecoveryDescriptor" d.members (by simp [Descriptor.members])
    (by simp [Descriptor.members, Member.same]) h
  rw [← descriptorShape_members, Descriptor.read_members, ← Descriptor.toJson_members] at hr
  exact hr.mono (by omega) (by simp [Descriptor.members])

end Recovery

/-! ## The record gives the descriptor back -/

namespace Json

-- Lookups step past members by key, so that no string comparison is left to evaluate.
theorem Fields.lookup_cons_self (k : String) (v : Json) (rest : Fields) :
    Fields.lookup k ((k, v) :: rest) = some v := by
  simp [Fields.lookup]

theorem Fields.lookup_cons_of_ne {k k' : String} (h : k ≠ k') (v : Json) (rest : Fields) :
    Fields.lookup k ((k', v) :: rest) = Fields.lookup k rest := by
  simp [Fields.lookup, h]

end Json

theorem Config.ofDecoded_toJson {c : Config} (hc : c.Valid) : Config.ofDecoded c.toJson = c := by
  obtain ⟨rootUri, credentials, defaultDatabase, userAgent, useJsonStream, keepAliveMs, rm⟩ := c
  have hrm : Uuid.parse rm.render = .ok rm := Uuid.parse_render hc.resourceManager
  cases credentials <;> cases defaultDatabase <;> cases keepAliveMs <;>
    simp only [Config.ofDecoded, Config.toJson, Json.get?, Fields.lookup_cons_self,
      Fields.lookup_cons_of_ne, ne_eq, String.reduceEq, not_false_eq_true, Json.str?, optStr,
      Json.nat, Json.int?, Json.bool?, hrm, Except.toOption, Option.bind_some,
      Option.getD_some, Option.map_none, Option.map_some, Int.toNat_natCast]

namespace Recovery

theorem Descriptor.ofDecoded_toJson {d : Descriptor} (hd : d.Valid) : Descriptor.ofDecoded d.toJson = d := by
  have hrm : Uuid.parse d.rm.render = .ok d.rm := Uuid.parse_render hd.rm
  have huow : Uuid.parse d.uow.render = .ok d.uow := Uuid.parse_render hd.uow
  have ht : Time.Rfc3339.parse (renderStamp d.recordedAt) = .ok d.recordedAt :=
    Time.Rfc3339.parse_zulu hd.recordedAt
  have hc := Config.ofDecoded_toJson hd.config
  obtain ⟨rm, uow, config, transport, version, database, location, recordedAt⟩ := d
  cases transport <;> cases location <;>
    simp_all only [Descriptor.ofDecoded, Descriptor.toJson, Json.get?, Fields.lookup_cons_self,
      Fields.lookup_cons_of_ne, ne_eq, String.reduceEq, not_false_eq_true, Json.str?, optStr,
      Json.nat, Json.int?, Except.toOption, TransportKind.debugName, ↓reduceIte, Option.bind_some,
      Option.getD_some, String.reduceBEq, Bool.false_eq_true, BEq.rfl, Int.toNat_natCast]

theorem Descriptor.decodeText_fileText {d : Descriptor} (hd : d.Valid) :
    descriptorShape.decodeText d.fileText = .ok d.toJson := by
  -- the text is long enough for the fuel the record needs
  have hkey : (utf8 (quote "resource_manager_id")).length = 21 := by decide
  have hjson : d.toJson =
      .obj (("resource_manager_id", .str d.rm.render) :: d.members.tail.map Member.written) := rfl
  have hlen := length_quote_le_pretty 0 "resource_manager_id" (.str d.rm.render)
    (d.members.tail.map Member.written)
  rw [hkey, ← hjson] at hlen
  exact decodeText_pretty (readsBack_descriptor hd) (by omega) (by unfold fuelFor; omega)

/-- A valid descriptor's file reads back as the descriptor. -/
theorem Descriptor.ofFileText_fileText {d : Descriptor} (hd : d.Valid) :
    Descriptor.ofFileText d.fileText = .ok d := by
  simp only [Descriptor.ofFileText, Descriptor.decodeText_fileText hd, Descriptor.ofDecoded_toJson hd]

end Recovery

end TxnCoord
