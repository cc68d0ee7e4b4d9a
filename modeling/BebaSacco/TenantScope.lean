import BebaSacco.Lib.Json

/-! # Tenant scoping of database calls

Every call of the extended Prisma client goes through `applyTenantScope`, which writes the tenant of
the async context into the call's arguments. Prisma itself is the parameter `Orm`: which rows a
`where` selects, what a payload builds and what an update assigns. It is lawful when it applies the
arguments it is handed.

Results:
 1. `mem_chosen_scoped`, `owner_of_scoped`: what the injected field says about the rows.
 2. `tenant_scope_isolates`: a call stays inside the tenant exactly when it is confined: no update
    data moves a row, and `createManyAndReturn` is handed the tenant by its caller.
-/

namespace BebaSacco

open Json

def TENANT_SCOPED_MODELS : List String :=
  ["TenantCounter", "User", "AuditLog", "PinVerification", "AuditEvent", "AuditChainHead",
    "AuditArchiveManifest", "Member", "Document", "Account", "AccountTypePolicy", "LoanProduct",
    "Loan", "LoanGuarantor", "Transaction", "MpesaTransaction", "MpesaPayoutIntent",
    "LoanApprovalChain", "LoginSession", "WebhookSubscription", "IntegrationOutbox", "CrbReport",
    "AmlScreening", "ProvisioningEntry", "DsarRequest", "SasraRatioSnapshot", "CbkReturn",
    "ApiClient", "NotificationLog", "NotificationPreference", "ComplianceAlert", "RiskScore",
    "FeatureSnapshot", "TenantRegionConfig", "FailedLoginAttempt", "BlockedIP", "DataAccessLog",
    "ConsentRegistry", "ErasureRequest", "Partner", "SlaIncident", "ExecutiveReport", "ReportJob",
    "MemberApplication", "Stage", "LoanRepayment", "SavingsRecord", "GroupWelfare",
    "GroupWelfareCollection", "DataImportLog", "KYCRequirement", "SupportTicket", "TicketMessage",
    "TicketAttachment", "Incident", "InAppNotification", "GLAccount", "JournalEntry"]

def TENANT_EXEMPT_MODELS : List String :=
  ["Tenant", "WebhookDelivery", "FeatureFlag", "CanaryDeployment", "PartnerUsageSnapshot",
    "County", "Constituency", "Ward", "StageAssignment", "MemberStage", "RefreshSession",
    "DataConsent", "GLPosting"]

/-- The actions of Prisma on a model. A raw query carries no model. -/
inductive PrismaAction where
  | findUnique | findUniqueOrThrow | findFirst | findFirstOrThrow | findMany
  | count | aggregate | groupBy
  | create | createMany | createManyAndReturn
  | update | updateMany | upsert
  | delete | deleteMany
  deriving DecidableEq, Repr

def READ_ACTIONS : List PrismaAction :=
  [.findUnique, .findUniqueOrThrow, .findFirst, .findFirstOrThrow, .findMany, .count, .aggregate,
    .groupBy]

def CREATE_ACTIONS : List PrismaAction := [.create, .createMany]

def UPDATE_ACTIONS : List PrismaAction := [.update, .updateMany]

def DELETE_ACTIONS : List PrismaAction := [.delete, .deleteMany]

/-- `Prisma.MiddlewareParams`; `args` is `none` for a call without arguments. -/
structure PrismaParams where
  model : Option String
  action : PrismaAction
  args : Option Fields

/-- The own properties that `...value` copies. -/
def ownProperties : Json → Fields
  | .object fields => fields
  | .array items => items.zipIdx.map fun (item, i) => (toString i, item)
  | .string s => s.toList.zipIdx.map fun (c, i) => (toString i, .string c.toString)
  | _ => []

/-- `args[key]`, with `undefined` read as null. -/
def argOf (args : Fields) (key : String) : Json := (args.lookup key).getD .null

def addTenantToWhere (args : Fields) (tenantId : String) : Fields :=
  spread args "where"
    (.object (spread (ownProperties (argOf args "where")) "tenantId" (.string tenantId)))

mutual

def addTenantToData (tenantId : String) : Json → Json
  | .array items => .array (addTenantToItems tenantId items)
  | .object fields => .object (spread fields "tenantId" (.string tenantId))
  | _ => .object [("tenantId", .string tenantId)]

def addTenantToItems (tenantId : String) : List Json → List Json
  | [] => []
  | item :: items => addTenantToData tenantId item :: addTenantToItems tenantId items

end

def assertKnownModel (model : Option String) : Except String Unit :=
  match model with
  | none => pure ()
  | some name =>
    if name == "" || TENANT_SCOPED_MODELS.contains name || TENANT_EXEMPT_MODELS.contains name then
      pure ()
    else
      throw ("Prisma tenant extension model allowlist is incomplete: " ++ name ++
        " is not classified")

/-- A write that rewrites or removes rows. -/
def PrismaAction.rewrites (action : PrismaAction) : Bool :=
  UPDATE_ACTIONS.contains action || DELETE_ACTIONS.contains action

def enforceAuditLogAppendOnly (params : PrismaParams) : Except String Unit :=
  if params.model == some "AuditLog" && params.action.rewrites then
    throw "AuditLog is append-only: updates and deletes are forbidden"
  else
    pure ()

def isTenantScopedModel (model : Option String) : Bool :=
  match model with
  | none => false
  | some name => TENANT_SCOPED_MODELS.contains name

/-- The arguments with the tenant written into them, by the kind of action. -/
def scopeArgs (action : PrismaAction) (tenantId : String) (args : Fields) : Fields :=
  if READ_ACTIONS.contains action then
    addTenantToWhere args tenantId
  else if CREATE_ACTIONS.contains action then
    spread args "data" (addTenantToData tenantId (argOf args "data"))
  else if action.rewrites then
    addTenantToWhere args tenantId
  else if action == .upsert then
    let args := addTenantToWhere args tenantId
    spread args "create"
      (.object (spread (ownProperties (argOf args "create")) "tenantId" (.string tenantId)))
  else
    -- `createManyAndReturn` is in none of the sets
    args

/-- `store` is the tenant id of the async context, if there is one. -/
def applyTenantScope (store : Option String) (params : PrismaParams) :
    Except String PrismaParams := do
  assertKnownModel params.model
  enforceAuditLogAppendOnly params
  if !isTenantScopedModel params.model then
    pure params
  else
    match store with
    | none => pure params
    | some tenantId =>
      if tenantId == "" then
        pure params
      else
        pure { params with args := some (scopeArgs params.action tenantId (params.args.getD [])) }

/-! ## The call that reaches the database -/

/-- What Prisma does with arguments, over the rows of one model. `chooses` is the row or the page of
rows, among those that the `where` selects, that the action is about; `owner` is the tenant that a
payload names and `target` the tenant that update data assigns, if it assigns one. -/
structure Orm (Row : Type) where
  tenantOf : Row → String
  selects : Json → Row → Bool
  chooses : PrismaAction → Fields → List Row → List Row
  owner : Fields → String
  build : Fields → Row
  target : Json → Option String
  assign : Json → Row → Row

/-- Prisma applies the `where` and the data that it is handed. -/
structure Orm.Lawful {Row : Type} (orm : Orm Row) : Prop where
  selects_tenant : ∀ {fields tenantId row}, fields.lookup "tenantId" = some (.string tenantId) →
    orm.selects (.object fields) row = true → orm.tenantOf row = tenantId
  chooses_mem : ∀ {action args rows row}, row ∈ orm.chooses action args rows → row ∈ rows
  owner_tenant : ∀ {fields tenantId}, fields.lookup "tenantId" = some (.string tenantId) →
    orm.owner fields = tenantId
  build_owner : ∀ fields, orm.tenantOf (orm.build fields) = orm.owner fields
  assign_target : ∀ data row,
    orm.tenantOf (orm.assign data row) = (orm.target data).getD (orm.tenantOf row)

/-- The rows that a call reads, counts, changes or deletes, and the rows that it creates or leaves
changed. -/
structure Effect (Row : Type) where
  touched : List Row
  written : List Row

/-- The payloads of a create: an object, or an array of objects. Prisma refuses other data. -/
def payloads : Json → Option (List Fields)
  | .object fields => some [fields]
  | .array items => payloadItems items
  | _ => none
where
  payloadItems : List Json → Option (List Fields)
    | [] => some []
    | .object fields :: items => (payloadItems items).map (fields :: ·)
    | _ :: _ => none

variable {Row : Type}

/-- The rows that the call is about. -/
def Orm.chosen (orm : Orm Row) (action : PrismaAction) (args : Fields) (table : List Row) :
    List Row :=
  orm.chooses action args (table.filter (orm.selects (argOf args "where")))

def Orm.insert (orm : Orm Row) (data : Json) : Except String (Effect Row) :=
  match payloads data with
  | none => throw "Invalid data"
  | some entries => pure ⟨[], entries.map orm.build⟩

def Orm.perform (orm : Orm Row) (action : PrismaAction) (args : Fields) (table : List Row) :
    Except String (Effect Row) :=
  let rows := orm.chosen action args table
  match action with
  | .create | .createMany | .createManyAndReturn => orm.insert (argOf args "data")
  | .update | .updateMany => pure ⟨rows, rows.map (orm.assign (argOf args "data"))⟩
  | .upsert =>
    if rows.isEmpty then
      orm.insert (argOf args "create")
    else
      pure ⟨rows, rows.map (orm.assign (argOf args "update"))⟩
  | _ => pure ⟨rows, []⟩

/-- A call of the extended client. -/
def Orm.issue (orm : Orm Row) (store : Option String) (params : PrismaParams) (table : List Row) :
    Except String (Effect Row) := do
  let params ← applyTenantScope store params
  orm.perform params.action (params.args.getD []) table

/-- A call that is not refused stays inside the tenant. -/
def Isolated (orm : Orm Row) (tenantId : String) (result : Except String (Effect Row)) : Prop :=
  ∀ effect, result = .ok effect →
    (∀ row ∈ effect.touched, orm.tenantOf row = tenantId) ∧
    ∀ row ∈ effect.written, orm.tenantOf row = tenantId

/-- The data leaves the rows with the tenant, or there is no row to change. -/
def Orm.Keeps (orm : Orm Row) (tenantId : String) (data : Json) (rows : List Row) : Prop :=
  rows = [] ∨ (orm.target data).getD tenantId = tenantId

/-- The condition on a call and the table it finds: update data does not move a row that the scoped
`where` chooses, and the payloads that the scope does not reach name the tenant themselves. -/
def Orm.Confined (orm : Orm Row) (tenantId : String) (params : PrismaParams) (table : List Row) :
    Prop :=
  let args := params.args.getD []
  let rows := orm.chosen params.action (scopeArgs params.action tenantId args) table
  match params.action with
  | .update | .updateMany =>
    params.model = some "AuditLog" ∨ orm.Keeps tenantId (argOf args "data") rows
  | .upsert => orm.Keeps tenantId (argOf args "update") rows
  | .createManyAndReturn =>
    ∀ entries, payloads (argOf args "data") = some entries →
      ∀ fields ∈ entries, orm.owner fields = tenantId
  | _ => True

namespace TenantScopeLemmas

variable {orm : Orm Row} {t : String} {action : PrismaAction} {args : Fields} {table : List Row}
  {params : PrismaParams} {data : Json} {entries : List Fields} {fields : Fields} {row : Row}
  {effect : Effect Row}

/-! ## 1. The injected field -/

@[simp] theorem argOf_spread_self {key : String} {value : Json} :
    argOf (spread args key value) key = value := by
  simp [argOf]

theorem argOf_spread_other {key key' : String} {value : Json} (h : key' ≠ key) :
    argOf (spread args key value) key' = argOf args key' := by
  rw [argOf, lookup_spread_other h, argOf]

theorem where_scoped :
    argOf (addTenantToWhere args t) "where" =
      .object (spread (ownProperties (argOf args "where")) "tenantId" (.string t)) :=
  argOf_spread_self

theorem argOf_scoped_where {key : String} (h : key ≠ "where") :
    argOf (addTenantToWhere args t) key = argOf args key :=
  argOf_spread_other h

theorem addTenantToItems_map (items : List Json) :
    addTenantToItems t items = items.map (addTenantToData t) := by
  induction items with
  | nil => rfl
  | cons item items ih => rw [addTenantToItems, ih, List.map_cons]

/-- A call whose `where` is scoped is about rows of the tenant only. -/
theorem mem_chosen_scoped (lawful : orm.Lawful)
    (hwhere : argOf args "where" =
      .object (spread (ownProperties data) "tenantId" (.string t)))
    (h : row ∈ orm.chosen action args table) : orm.tenantOf row = t := by
  have hmem := lawful.chooses_mem h
  obtain ⟨-, hselected⟩ := List.mem_filter.mp hmem
  rw [hwhere] at hselected
  exact lawful.selects_tenant lookup_spread_self hselected

theorem addTenantToData_object (h : addTenantToData t data = .object fields) :
    fields.lookup "tenantId" = some (.string t) := by
  cases data with
  | array items => simp [addTenantToData] at h
  | object given =>
    simp only [addTenantToData, Json.object.injEq] at h
    rw [← h]
    exact lookup_spread_self
  | null | bool | number | string =>
    simp only [addTenantToData, Json.object.injEq] at h
    rw [← h]
    rfl

theorem mem_payloadItems {items : List Json} (h : payloads.payloadItems items = some entries)
    (hmem : fields ∈ entries) : .object fields ∈ items := by
  induction items generalizing entries with
  | nil =>
    obtain rfl := Option.some.inj h
    cases hmem
  | cons item items ih =>
    cases item with
    | object given =>
      rw [payloads.payloadItems, Option.map_eq_some_iff] at h
      obtain ⟨rest, hrest, rfl⟩ := h
      rcases List.mem_cons.mp hmem with rfl | hmem
      · exact List.mem_cons_self
      · exact List.mem_cons_of_mem _ (ih hrest hmem)
    | _ => cases h

/-- Every payload of scoped data names the tenant. -/
theorem owner_of_scoped (h : payloads (addTenantToData t data) = some entries)
    (hmem : fields ∈ entries) : fields.lookup "tenantId" = some (.string t) := by
  cases data with
  | array items =>
    rw [addTenantToData, addTenantToItems_map] at h
    obtain ⟨item, -, hitem⟩ := List.mem_map.mp (mem_payloadItems h hmem)
    exact addTenantToData_object hitem
  | object given =>
    obtain rfl := Option.some.inj h
    obtain rfl := List.mem_singleton.mp hmem
    exact lookup_spread_self
  | _ =>
    obtain rfl := Option.some.inj h
    obtain rfl := List.mem_singleton.mp hmem
    rfl

/-! ## 2. The effect of a call -/

theorem isolated_insert (lawful : orm.Lawful)
    (howner : ∀ entries, payloads data = some entries → ∀ fields ∈ entries, orm.owner fields = t) :
    Isolated orm t (orm.insert data) := by
  intro effect heffect
  cases hdata : payloads data with
  | none => simp [Orm.insert, hdata, throw, throwThe, MonadExceptOf.throw] at heffect
  | some entries =>
    simp only [Orm.insert, hdata] at heffect
    cases heffect
    refine ⟨fun row hrow => absurd hrow List.not_mem_nil, fun row hrow => ?_⟩
    obtain ⟨fields, hfields, rfl⟩ := List.mem_map.mp hrow
    rw [lawful.build_owner]
    exact howner entries hdata fields hfields

theorem owner_of_isolated_insert (lawful : orm.Lawful) (h : Isolated orm t (orm.insert data))
    (hdata : payloads data = some entries) (hfields : fields ∈ entries) : orm.owner fields = t := by
  have heffect : orm.insert data = .ok ⟨[], entries.map orm.build⟩ := by
    rw [Orm.insert, hdata]
    rfl
  rw [← lawful.build_owner]
  exact (h _ heffect).2 _ (List.mem_map_of_mem hfields)

/-- A change of rows of the tenant stays inside it exactly when its data keeps them there. -/
theorem isolated_change_iff (lawful : orm.Lawful) {rows : List Row}
    (hrows : ∀ row ∈ rows, orm.tenantOf row = t) :
    Isolated orm t (.ok ⟨rows, rows.map (orm.assign data)⟩) ↔ orm.Keeps t data rows := by
  constructor
  · intro h
    rcases rows with - | ⟨row, rows⟩
    · exact .inl rfl
    · refine .inr ?_
      have hwritten := (h _ rfl).2 _ (List.mem_map_of_mem (List.mem_cons_self (l := rows)))
      rwa [lawful.assign_target, hrows row List.mem_cons_self] at hwritten
  · intro hkeeps effect heffect
    cases heffect
    refine ⟨hrows, fun row hrow => ?_⟩
    obtain ⟨old, hold, rfl⟩ := List.mem_map.mp hrow
    rw [lawful.assign_target, hrows old hold]
    exact hkeeps.resolve_left (List.ne_nil_of_mem hold)

theorem isolated_read {rows : List Row} (hrows : ∀ row ∈ rows, orm.tenantOf row = t) :
    Isolated orm t (.ok ⟨rows, []⟩) := by
  intro effect heffect
  cases heffect
  exact ⟨hrows, fun row hrow => absurd hrow List.not_mem_nil⟩

/-- A call on a scoped model under a tenant is refused, or it is performed on the scoped
arguments. -/
theorem issue_scoped (ht : t ≠ "") {model : String} (hmodel : params.model = some model)
    (hscoped : model ∈ TENANT_SCOPED_MODELS) :
    orm.issue (some t) params table =
      if params.model == some "AuditLog" && params.action.rewrites then
        .error "AuditLog is append-only: updates and deletes are forbidden"
      else
        orm.perform params.action (scopeArgs params.action t (params.args.getD [])) table := by
  have hcontains : TENANT_SCOPED_MODELS.contains model = true := List.contains_iff_mem.mpr hscoped
  have hknown : assertKnownModel params.model = .ok () := by
    rw [hmodel, assertKnownModel, hcontains, Bool.or_true, Bool.true_or]
    rfl
  have hmodel' : isTenantScopedModel params.model = true := by rw [hmodel]; exact hcontains
  simp only [Orm.issue, applyTenantScope, hknown, enforceAuditLogAppendOnly, hmodel']
  split
  · rfl
  · simp [bind, Except.bind, pure, Except.pure, ht]

end TenantScopeLemmas

open TenantScopeLemmas

/-! ## 3. Isolation -/

/-- A call under a tenant touches and writes rows of the tenant only exactly when it is confined. -/
theorem tenant_scope_isolates {orm : Orm Row} (lawful : orm.Lawful) {t model : String} (ht : t ≠ "")
    {params : PrismaParams} (hmodel : params.model = some model)
    (hscoped : model ∈ TENANT_SCOPED_MODELS) (table : List Row) :
    Isolated orm t (orm.issue (some t) params table) ↔ orm.Confined t params table := by
  rw [issue_scoped ht hmodel hscoped]
  rcases params with ⟨model', action, args⟩
  have hchosen : ∀ row ∈ orm.chosen action (addTenantToWhere (args.getD []) t) table,
      orm.tenantOf row = t := fun row => mem_chosen_scoped lawful where_scoped
  have hcreated : ∀ {data entries}, payloads (addTenantToData t data) = some entries →
      ∀ fields ∈ entries, orm.owner fields = t :=
    fun hentries fields hfields => lawful.owner_tenant (owner_of_scoped hentries hfields)
  cases action with
  | findUnique | findUniqueOrThrow | findFirst | findFirstOrThrow | findMany | count | aggregate
  | groupBy =>
    rw [if_neg (by simp [PrismaAction.rewrites, UPDATE_ACTIONS, DELETE_ACTIONS])]
    exact iff_of_true (isolated_read hchosen) trivial
  | create | createMany =>
    rw [if_neg (by simp [PrismaAction.rewrites, UPDATE_ACTIONS, DELETE_ACTIONS])]
    refine iff_of_true (isolated_insert lawful ?_) trivial
    intro entries hentries
    exact hcreated (argOf_spread_self ▸ hentries)
  | createManyAndReturn =>
    -- no set names this action: its data goes to Prisma as the caller wrote it
    rw [if_neg (by simp [PrismaAction.rewrites, UPDATE_ACTIONS, DELETE_ACTIONS])]
    constructor
    · intro h entries hentries fields hfields
      exact owner_of_isolated_insert lawful h hentries hfields
    · intro h
      exact isolated_insert lawful h
  | update | updateMany =>
    split
    · next haudit =>
      refine iff_of_true (fun effect heffect => by cases heffect) (.inl ?_)
      exact beq_iff_eq.mp (Bool.and_eq_true_iff.mp haudit).1
    · next haudit =>
      have hmodel' : model' ≠ some "AuditLog" := by
        rintro rfl
        exact haudit rfl
      refine (isolated_change_iff lawful hchosen).trans ?_
      have hdata : argOf (addTenantToWhere (args.getD []) t) "data" = argOf (args.getD []) "data" :=
        argOf_scoped_where (by decide)
      exact ⟨fun h => .inr (hdata ▸ h), fun h => hdata.symm ▸ h.resolve_left hmodel'⟩
  | upsert =>
    rw [if_neg (by simp [PrismaAction.rewrites, UPDATE_ACTIONS, DELETE_ACTIONS])]
    have hwhere : argOf (scopeArgs .upsert t (args.getD [])) "where" = _ :=
      (argOf_spread_other (by decide)).trans where_scoped
    have hdata : argOf (scopeArgs .upsert t (args.getD [])) "update" = argOf (args.getD []) "update" :=
      (argOf_spread_other (by decide)).trans (argOf_scoped_where (by decide))
    show Isolated orm t (orm.perform .upsert (scopeArgs .upsert t (args.getD [])) table) ↔
      orm.Keeps t (argOf (args.getD []) "update")
        (orm.chosen .upsert (scopeArgs .upsert t (args.getD [])) table)
    rw [← hdata, Orm.perform]
    cases hrows : orm.chosen .upsert (scopeArgs .upsert t (args.getD [])) table with
    | nil =>
      -- no row: the create payload is scoped like any other
      have hcreate : argOf (scopeArgs .upsert t (args.getD [])) "create" = .object _ :=
        argOf_spread_self
      refine iff_of_true ?_ (.inl rfl)
      show Isolated orm t (orm.insert (argOf (scopeArgs .upsert t (args.getD [])) "create"))
      refine isolated_insert lawful fun entries hentries fields hfields => ?_
      rw [hcreate] at hentries
      obtain rfl := Option.some.inj hentries
      obtain rfl := List.mem_singleton.mp hfields
      exact lawful.owner_tenant lookup_spread_self
    | cons row rows =>
      refine isolated_change_iff lawful fun row' hrow' => ?_
      exact mem_chosen_scoped lawful hwhere (hrows ▸ hrow')
  | delete | deleteMany =>
    split
    · exact iff_of_true (fun effect heffect => by cases heffect) trivial
    · exact iff_of_true (isolated_read hchosen) trivial

/-! ### Two tenants, one table -/

structure MemberRow where
  id : String
  tenantId : String
  phone : String
  deriving DecidableEq, Repr

def MemberRow.column (row : MemberRow) (key : String) : Option String :=
  if key == "id" then some row.id
  else if key == "tenantId" then some row.tenantId
  else if key == "phone" then some row.phone
  else none

/-- The string property `key` of an object. -/
def textOf (data : Json) (key : String) : Option String :=
  match argOf (ownProperties data) key with
  | .string s => some s
  | _ => none

/-- Prisma on the table `Member`, for filters by equality. -/
def exOrm : Orm MemberRow where
  tenantOf := MemberRow.tenantId
  selects := fun filter row => (ownProperties filter).all fun (key, value) =>
    match value with
    | .string s => row.column key == some s
    | _ => false
  chooses := fun _ _ rows => rows
  owner := fun fields => (textOf (.object fields) "tenantId").getD ""
  build := fun fields =>
    { id := (textOf (.object fields) "id").getD ""
      tenantId := (textOf (.object fields) "tenantId").getD ""
      phone := (textOf (.object fields) "phone").getD "" }
  target := fun data => textOf data "tenantId"
  assign := fun data row =>
    { row with
      tenantId := (textOf data "tenantId").getD row.tenantId
      phone := (textOf data "phone").getD row.phone }

theorem exOrm_lawful : exOrm.Lawful where
  selects_tenant {fields tenantId row} h hselected := by
    have hmem : ("tenantId", Json.string tenantId) ∈ fields := by
      obtain ⟨before, after, rfl, -⟩ := List.lookup_eq_some_iff.mp h
      simp
    have hcolumn := List.all_eq_true.mp hselected _ hmem
    simpa [MemberRow.column, exOrm] using hcolumn
  chooses_mem h := h
  owner_tenant {fields tenantId} h := by simp [exOrm, textOf, ownProperties, argOf, h]
  build_owner _ := rfl
  assign_target _ _ := rfl

def exMembers : List MemberRow := [⟨"m1", "A", "0700"⟩, ⟨"m2", "B", "0701"⟩]

/-- `member.updateMany` with the given data and no `where`. -/
def exUpdate (data : Fields) : PrismaParams :=
  ⟨some "Member", .updateMany, some [("data", .object data)]⟩

/-- A change of phone numbers reaches the caller's own members only. -/
theorem tenant_scope_isolates_phone :
    Isolated exOrm "A" (exOrm.issue (some "A") (exUpdate [("phone", .string "0799")]) exMembers) :=
  (tenant_scope_isolates exOrm_lawful (by decide) rfl (by decide) exMembers).mpr
    (.inr (.inr rfl))

/-- The tenant in update data is not the caller's: the member goes over to the other SACCO. -/
theorem update_moves_row :
    ¬ Isolated exOrm "A"
      (exOrm.issue (some "A") (exUpdate [("tenantId", .string "B")]) exMembers) := by
  intro h
  have hmoved := (h ⟨[⟨"m1", "A", "0700"⟩], [⟨"m1", "B", "0700"⟩]⟩ rfl).2 _ List.mem_cons_self
  exact absurd hmoved (by decide)

end BebaSacco
