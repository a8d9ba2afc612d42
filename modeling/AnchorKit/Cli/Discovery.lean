import AnchorKit.Base.Distinct
import AnchorKit.Cli.Error
import AnchorKit.Contract.DomainValidator
import Mathlib.Data.Set.Card
import Mathlib.Data.String.Basic

/-!
# Capability discovery

`discover` reads an anchor's `stellar.toml` and the `/info` of one of its transfer servers,
and `detect` reports from both which of the protocols the anchor supports.  An `/info`
response holds two maps by asset code, each given by its entries in the order in which the
map iterates.
-/

set_option autoImplicit false

namespace AnchorKit.Cli.Discovery

open AnchorKit.Base AnchorKit.Contract.DomainValidator

structure AssetOperation where
  enabled : Bool
  deriving DecidableEq, Repr

/-- A `HashMap` by asset code. -/
structure AssetMap where
  entries : List (String × AssetOperation)
  distinct : (entries.map Prod.fst).Nodup

def AssetMap.get (assets : AssetMap) (code : String) : Option AssetOperation :=
  assets.entries.lookup code

structure InfoResponse where
  deposit : AssetMap
  withdraw : AssetMap

def AssetMap.enabledCodes (assets : AssetMap) : List String :=
  (assets.entries.filter fun entry => entry.2.enabled).map Prod.fst

/-- The codes are sorted, and then `dedup` drops each that equals the one before it. -/
def InfoResponse.enabledAssetCount (info : InfoResponse) : Nat :=
  (((info.deposit.enabledCodes ++ info.withdraw.enabledCodes).insertionSort (· ≤ ·)).destutter
    (· ≠ ·)).length

structure StellarToml where
  version : Option String
  webAuthEndpoint : Option String
  signingKey : Option String
  transferServer : Option String
  transferServerSep24 : Option String
  kycServer : Option String
  directPaymentServer : Option String
  anchorQuoteServer : Option String

structure SepFinding where
  sep : String
  name : String
  supported : Bool
  detail : Option String
  deriving DecidableEq, Repr

inductive InfoSource where
  | none
  | sep6
  | sep24
  deriving DecidableEq, Repr

def sepTransferSupported (endpoint : Option String) (info : Option InfoResponse)
    (isThisEndpoint : Bool) : Bool :=
  if endpoint.isNone then false
  else if isThisEndpoint then (info.map fun i => decide (i.enabledAssetCount > 0)).getD true
  else true

def assetDetail (endpoint : Option String) (info : Option InfoResponse)
    (isThisEndpoint : Bool) : Option String :=
  match isThisEndpoint, info with
  | true, some info =>
      let count := info.enabledAssetCount
      endpoint.map fun endpoint =>
        endpoint ++ " (" ++ toString count ++ " asset" ++ (if count = 1 then "" else "s") ++
          " enabled)"
  | _, _ => endpoint

def detect (toml : StellarToml) (info : Option InfoResponse) (infoSource : InfoSource) :
    List SepFinding :=
  let sep6IsQueriedEndpoint := decide (infoSource = .sep6)
  let sep24IsQueriedEndpoint := decide (infoSource = .sep24)
  [⟨"SEP-1", "stellar.toml (anchor metadata)", true, toml.version.map ("VERSION " ++ ·)⟩,
    ⟨"SEP-10", "Web Authentication", toml.webAuthEndpoint.isSome && toml.signingKey.isSome,
      toml.webAuthEndpoint⟩,
    ⟨"SEP-6", "Deposit/Withdrawal",
      sepTransferSupported toml.transferServer info sep6IsQueriedEndpoint,
      assetDetail toml.transferServer info sep6IsQueriedEndpoint⟩,
    ⟨"SEP-24", "Hosted Deposit/Withdrawal",
      sepTransferSupported toml.transferServerSep24 info sep24IsQueriedEndpoint,
      assetDetail toml.transferServerSep24 info sep24IsQueriedEndpoint⟩,
    ⟨"SEP-12", "KYC API", toml.kycServer.isSome, toml.kycServer⟩,
    ⟨"SEP-31", "Cross-Border Payments", toml.directPaymentServer.isSome,
      toml.directPaymentServer⟩,
    ⟨"SEP-38", "Anchor RFQ (Quotes)", toml.anchorQuoteServer.isSome, toml.anchorQuoteServer⟩]

/-! ## The command -/

/-- What a request comes to: no response, or a status and what is made of the body. -/
inductive Reply (Body : Type) where
  | failed (reason : String)
  | response (status : UInt16) (body : Body)

/-- The web as the client sees it.  The text of a body may not arrive, and it may not
parse. -/
structure Web where
  client : Except String Unit
  toml : String → Reply (Except String (Except String StellarToml))
  info : String → Reply (Except String InfoResponse)

def fetchToml (web : Web) (domain : String) : Except CliError StellarToml :=
  let url := "https://" ++ domain ++ "/.well-known/stellar.toml"
  match web.toml url with
  | .failed reason => .error (.unreachable url reason)
  | .response status body =>
      if ¬ isSuccess status then .error (.httpStatus url status)
      else
        match body with
        | .error reason => .error (.unreachable url reason)
        | .ok (.error reason) => .error (.malformed url reason)
        | .ok (.ok toml) => .ok toml

def fetchInfo (web : Web) (baseUrl : String) : Except CliError InfoResponse :=
  let url := trimEndSlashes baseUrl ++ "/info"
  match web.info url with
  | .failed reason => .error (.unreachable url reason)
  | .response status body =>
      if ¬ isSuccess status then .error (.httpStatus url status)
      else
        match body with
        | .error reason => .error (.malformed url reason)
        | .ok info => .ok info

structure DiscoveryReport where
  domain : String
  toml : StellarToml
  seps : List SepFinding

/-- The transfer server whose `/info` is read: the SEP-24 one if both are advertised. -/
def queryInfo (web : Web) (toml : StellarToml) :
    Except CliError (Option InfoResponse × InfoSource) :=
  match toml.transferServerSep24, toml.transferServer with
  | some base, _ => (fetchInfo web base).map fun info => (some info, .sep24)
  | none, some base => (fetchInfo web base).map fun info => (some info, .sep6)
  | none, none => .ok (none, .none)

def discover (web : Web) (domain : String) : Except CliError DiscoveryReport := do
  if ¬ validateDomainSyntax domain then .error (.invalidDomain domain)
  else
    web.client.mapError (CliError.unreachable domain)
    let toml ← fetchToml web domain
    let (info, infoSource) ← queryInfo web toml
    return ⟨domain, toml, detect toml info infoSource⟩

/-! ## What is counted and what is supported -/

def AssetMap.Enables (assets : AssetMap) (code : String) : Prop :=
  ∃ operation, assets.get code = some operation ∧ operation.enabled = true

def InfoResponse.Enables (info : InfoResponse) (code : String) : Prop :=
  info.deposit.Enables code ∨ info.withdraw.Enables code

def reported (findings : List SepFinding) (sep : String) : Option Bool :=
  (findings.find? fun finding => finding.sep == sep).map SepFinding.supported

theorem lookup_eq_some_iff {entries : List (String × AssetOperation)}
    (distinct : (entries.map Prod.fst).Nodup) (code : String) (operation : AssetOperation) :
    entries.lookup code = some operation ↔ (code, operation) ∈ entries := by
  induction entries with
  | nil => simp
  | cons entry rest ofRest =>
      obtain ⟨key, value⟩ := entry
      rw [List.map_cons, List.nodup_cons] at distinct
      rw [List.lookup_cons, List.mem_cons]
      by_cases same : code = key
      · subst same
        have absent : (code, operation) ∉ rest :=
          fun inside => distinct.1 (List.mem_map.2 ⟨(code, operation), inside, rfl⟩)
        simp [absent, eq_comm]
      · rw [beq_eq_false_iff_ne.2 same]
        simp [same, ofRest distinct.2]

theorem AssetMap.mem_enabledCodes_iff (assets : AssetMap) (code : String) :
    code ∈ assets.enabledCodes ↔ assets.Enables code := by
  unfold AssetMap.enabledCodes AssetMap.Enables AssetMap.get
  simp only [lookup_eq_some_iff assets.distinct, List.mem_map, List.mem_filter]
  constructor
  · rintro ⟨⟨_, operation⟩, ⟨inside, enabled⟩, rfl⟩
    exact ⟨operation, inside, enabled⟩
  · rintro ⟨operation, inside, enabled⟩
    exact ⟨(code, operation), ⟨inside, enabled⟩, rfl⟩

theorem InfoResponse.enabledAssetCount_eq (info : InfoResponse) :
    info.enabledAssetCount = {code | info.Enables code}.ncard := by
  unfold InfoResponse.enabledAssetCount
  rw [length_destutter_insertionSort, ← Set.ncard_coe_finset]
  congr 1
  ext code
  simp [AssetMap.mem_enabledCodes_iff, InfoResponse.Enables]

theorem InfoResponse.enabledAssetCount_pos_iff (info : InfoResponse) :
    0 < info.enabledAssetCount ↔ ∃ code, info.Enables code := by
  unfold InfoResponse.enabledAssetCount InfoResponse.Enables
  rw [length_destutter_insertionSort, Finset.card_pos]
  simp only [Finset.Nonempty, List.mem_toFinset, List.mem_append,
    AssetMap.mem_enabledCodes_iff]

theorem sepTransferSupported_iff (endpoint : Option String) (info : Option InfoResponse)
    (isThisEndpoint : Bool) :
    sepTransferSupported endpoint info isThisEndpoint = true ↔
      endpoint.isSome = true ∧
      ∀ response, info = some response → isThisEndpoint = true →
        ∃ code, response.Enables code := by
  unfold sepTransferSupported
  cases endpoint with
  | none => simp
  | some url =>
      cases isThisEndpoint with
      | false => simp
      | true =>
          cases info with
          | none => simp
          | some response => simp [InfoResponse.enabledAssetCount_pos_iff]

theorem reported_sep6 (toml : StellarToml) (info : Option InfoResponse)
    (infoSource : InfoSource) :
    reported (detect toml info infoSource) "SEP-6" =
      some (sepTransferSupported toml.transferServer info (decide (infoSource = .sep6))) :=
  rfl

theorem reported_sep24 (toml : StellarToml) (info : Option InfoResponse)
    (infoSource : InfoSource) :
    reported (detect toml info infoSource) "SEP-24" =
      some (sepTransferSupported toml.transferServerSep24 info
        (decide (infoSource = .sep24))) :=
  rfl

/-- The count is the number of distinct codes that one of the maps enables, whatever the
order of iteration.  A transfer server is reported as supported exactly if `stellar.toml`
names it and, where `/info` was read from that server, an asset is enabled there. -/
theorem asset_count_and_transfer_support :
    (∀ info : InfoResponse, info.enabledAssetCount = {code | info.Enables code}.ncard) ∧
    ∀ (toml : StellarToml) (info : Option InfoResponse) (infoSource : InfoSource),
      (reported (detect toml info infoSource) "SEP-6" = some true ↔
        toml.transferServer.isSome = true ∧
        ∀ response, info = some response → infoSource = .sep6 →
          ∃ code, response.Enables code) ∧
      (reported (detect toml info infoSource) "SEP-24" = some true ↔
        toml.transferServerSep24.isSome = true ∧
        ∀ response, info = some response → infoSource = .sep24 →
          ∃ code, response.Enables code) := by
  refine ⟨InfoResponse.enabledAssetCount_eq, fun toml info infoSource => ⟨?_, ?_⟩⟩
  · rw [reported_sep6, Option.some_inj, sepTransferSupported_iff]
    simp only [decide_eq_true_eq]
  · rw [reported_sep24, Option.some_inj, sepTransferSupported_iff]
    simp only [decide_eq_true_eq]

/-- A disabled asset is left out, and one that both maps enable is counted once. -/
example : InfoResponse.enabledAssetCount
    ⟨⟨[("USD", ⟨true⟩), ("EUR", ⟨false⟩)], by decide⟩,
      ⟨[("USD", ⟨true⟩), ("GBP", ⟨true⟩)], by decide⟩⟩ = 2 := by
  decide

/-! ## Which server is asked -/

theorem bind_eq_ok {Fault First Second : Type} {first : Except Fault First}
    {next : First → Except Fault Second} {result : Second}
    (done : first >>= next = .ok result) :
    ∃ value, first = .ok value ∧ next value = .ok result := by
  cases first with
  | error fault => cases done
  | ok value => exact ⟨value, rfl, done⟩

/-- A response stands behind a report of `discover`: that of the SEP-24 server if there is one,
else that of the SEP-6 server, and none without either. -/
theorem discover_cases {web : Web} {domain : String} {report : DiscoveryReport}
    (discovered : discover web domain = .ok report) :
    ∃ info infoSource, queryInfo web report.toml = .ok (info, infoSource) ∧
      report.seps = detect report.toml info infoSource := by
  unfold discover at discovered
  split at discovered
  next => cases discovered
  next =>
    obtain ⟨_, -, discovered⟩ := bind_eq_ok discovered
    obtain ⟨toml, -, discovered⟩ := bind_eq_ok discovered
    obtain ⟨⟨info, infoSource⟩, queried, discovered⟩ := bind_eq_ok discovered
    cases discovered
    exact ⟨info, infoSource, queried, rfl⟩

/-- In a report the SEP-24 server is always judged by its own `/info`, the SEP-6 server only
where there is no SEP-24 server. -/
theorem discover_reports {web : Web} {domain : String} {report : DiscoveryReport}
    (discovered : discover web domain = .ok report) :
    (reported report.seps "SEP-24" = some true ↔
      ∃ base response, report.toml.transferServerSep24 = some base ∧
        fetchInfo web base = .ok response ∧ ∃ code, response.Enables code) ∧
    (reported report.seps "SEP-6" = some true ↔
      ∃ base, report.toml.transferServer = some base ∧
        (report.toml.transferServerSep24 = none →
          ∃ response, fetchInfo web base = .ok response ∧ ∃ code, response.Enables code)) := by
  obtain ⟨info, infoSource, queried, found⟩ := discover_cases discovered
  rw [found, reported_sep6, reported_sep24, Option.some_inj, Option.some_inj,
    sepTransferSupported_iff, sepTransferSupported_iff]
  unfold queryInfo at queried
  cases hosted : report.toml.transferServerSep24 with
  | some base =>
      rw [hosted] at queried
      cases fetched : fetchInfo web base with
      | error error => simp [fetched, Except.map] at queried
      | ok response =>
          simp only [fetched, Except.map, Except.ok.injEq, Prod.mk.injEq] at queried
          obtain ⟨rfl, rfl⟩ := queried
          simp [fetched, Option.isSome_iff_exists]
  | none =>
      cases plain : report.toml.transferServer with
      | none =>
          simp [hosted, plain] at queried
          simp
      | some base =>
          rw [hosted, plain] at queried
          cases fetched : fetchInfo web base with
          | error error => simp [fetched, Except.map] at queried
          | ok response =>
              simp only [fetched, Except.map, Except.ok.injEq, Prod.mk.injEq] at queried
              obtain ⟨rfl, rfl⟩ := queried
              simp [fetched]

end AnchorKit.Cli.Discovery
