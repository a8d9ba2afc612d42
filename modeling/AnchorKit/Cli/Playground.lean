import AnchorKit.Base.Hex
import AnchorKit.Base.Words
import AnchorKit.Cli.Error
import AnchorKit.Contract.Outcome

/-!
# The playground of the command line

`repl.rs` reads lines and has `rpc.rs` simulate a method of the deployed contract for
each; `args.rs` reads the arguments and `display.rs` shows the result.  Address texts,
XDR and the escaping of byte strings belong to other crates and are parameters.  How
the endpoint replies to a request is part of the input, line by line.
-/

set_option autoImplicit false

namespace AnchorKit.Cli.Playground

open AnchorKit.Base
open AnchorKit.Base.Ascii (utf8Bytes)

abbrev Key : Type := Contract.BytesN 32

inductive ScAddress where
  | account (key : Key)
  | contract (key : Key)
  /-- Another kind, with its `Debug` text. -/
  | other (debug : String)

inductive ScVal where
  | bool (value : Bool)
  | void
  | u32 (value : UInt32)
  | i32 (value : Int32)
  | u64 (value : UInt64)
  | i64 (value : Int64)
  | bytes (value : List UInt8)
  | string (value : List UInt8)
  | symbol (value : List UInt8)
  | address (value : ScAddress)
  | vec (items : Option (List ScVal))
  | map (entries : Option (List (ScVal × ScVal)))
  /-- Another kind, with its `Debug` text. -/
  | other (debug : String)

structure InvokeContractArgs where
  contractAddress : ScAddress
  functionName : List UInt8
  args : List ScVal

structure Operation where
  hostFunction : InvokeContractArgs
  /-- The authorisation entries, as bytes. -/
  auth : List (List UInt8)

structure Transaction where
  sourceAccount : Key
  fee : UInt32
  seqNum : Int64
  operations : List Operation

structure TransactionEnvelope where
  tx : Transaction
  signatures : List (List UInt8)

/-- What the crates of the network compute. -/
structure Crates where
  /-- `ed25519::PublicKey::from_string`. -/
  accountKey : String → Except String Key
  /-- `Contract::from_string`. -/
  contractKey : String → Except String Key
  showAccount : Key → String
  showContract : Key → String
  /-- The `Display` of a `StringM`. -/
  escaped : List UInt8 → String
  /-- The `Display` of a status. -/
  statusText : UInt16 → String
  toXdr : TransactionEnvelope → Except String String
  fromXdr : String → Except String ScVal

/-- The variants of `CliError` that the playground constructs. -/
inductive PlaygroundError where
  | usage (message : String)
  | invalidArgument (arg reason : String)
  | rpc (message : String)
  | simulation (message : String)
  | xdr (message : String)
  deriving DecidableEq, Repr

def PlaygroundError.display : PlaygroundError → String
  | .usage message => message
  | .invalidArgument arg reason => "invalid argument '" ++ arg ++ "': " ++ reason
  | .rpc message => "RPC request failed: " ++ message
  | .simulation message => "contract call failed: " ++ message
  | .xdr message => "XDR encoding error: " ++ message

section Crates

variable (crates : Crates)

/-! ## Display -/

def formatAddress : ScAddress → String
  | .account key => crates.showAccount key
  | .contract key => crates.showContract key
  | .other debug => debug

mutual

def formatScval : ScVal → String
  | .bool value => toString value
  | .void => "()"
  | .u32 value => toString value
  | .i32 value => toString value
  | .u64 value => toString value
  | .i64 value => toString value
  | .bytes value => "0x" ++ Hex.encode value
  | .string value => crates.escaped value
  | .symbol value => crates.escaped value
  | .address value => formatAddress crates value
  | .vec none => "[]"
  | .vec (some items) => "[" ++ ", ".intercalate (formatItems items) ++ "]"
  | .map none => "\x7b\x7d"
  | .map (some entries) => "\x7b" ++ ", ".intercalate (formatEntries entries) ++ "\x7d"
  | .other debug => debug

def formatItems : List ScVal → List String
  | [] => []
  | item :: items => formatScval item :: formatItems items

def formatEntries : List (ScVal × ScVal) → List String
  | [] => []
  | (key, value) :: entries =>
      (formatScval key ++ ": " ++ formatScval value) :: formatEntries entries

end

/-! ## Arguments -/

def parseAddress (raw : String) : Except PlaygroundError ScVal :=
  match crates.accountKey raw with
  | .ok key => .ok (.address (.account key))
  | .error _ =>
      match crates.contractKey raw with
      | .ok key => .ok (.address (.contract key))
      | .error _ =>
          .error (.invalidArgument raw
            "expected a 'G...' account address or a 'C...' contract address")

/-- Only the length of a symbol is checked, in bytes. -/
def parseSymbol (raw : String) : Except PlaygroundError ScVal :=
  if (utf8Bytes raw).length ≤ 32 then .ok (.symbol (utf8Bytes raw))
  else .error (.invalidArgument raw "not a valid symbol (must be ASCII, 32 characters or fewer)")

/-! ## Requests -/

structure RpcClient where
  rpcUrl : String
  contractId : Key
  sourceAccount : Key

/-- `built` is what building the HTTP client comes to. -/
def RpcClient.new (rpcUrl contractId sourceAccount : String) (built : Except String Unit) :
    Except PlaygroundError RpcClient := do
  let contract ← (crates.contractKey contractId).mapError (.invalidArgument contractId)
  let source ← (crates.accountKey sourceAccount).mapError (.invalidArgument sourceAccount)
  built.mapError .rpc
  return ⟨rpcUrl, contract, source⟩

structure SimulateResult where
  error : Option String
  /-- The `xdr` of each result. -/
  results : Option (List String)

structure JsonRpcResponse where
  result : Option SimulateResult
  /-- The `message` of the error. -/
  error : Option String

inductive Reply where
  | unreachable (reason : String)
  | response (status : UInt16) (body : Except String JsonRpcResponse)

structure Request where
  url : String
  method : String
  transaction : String

def buildEnvelope (client : RpcClient) (functionName : String) (args : List ScVal) :
    Except PlaygroundError TransactionEnvelope :=
  if (utf8Bytes functionName).length ≤ 32 then
    .ok {
      tx := {
        sourceAccount := client.sourceAccount
        fee := 100
        seqNum := 0
        operations := [{
          hostFunction := ⟨.contract client.contractId, utf8Bytes functionName, args⟩
          auth := [] }] }
      signatures := [] }
  else
    .error (.invalidArgument functionName
      "not a valid contract method name (must be ASCII, 32 characters or fewer)")

def readReply (client : RpcClient) : Reply → Except PlaygroundError ScVal
  | .unreachable reason =>
      .error (.rpc ("could not reach " ++ client.rpcUrl ++ ": " ++ reason))
  | .response status body =>
      if ¬ isSuccess status then
        .error (.rpc (client.rpcUrl ++ " responded with HTTP " ++ crates.statusText status))
      else
        match body with
        | .error reason =>
            .error (.rpc
              (client.rpcUrl ++ " sent a response that wasn't valid JSON-RPC: " ++ reason))
        | .ok ⟨_, some message⟩ => .error (.rpc message)
        | .ok ⟨none, none⟩ => .error (.rpc (client.rpcUrl ++ " returned an empty response"))
        | .ok ⟨some ⟨some message, _⟩, none⟩ => .error (.simulation message)
        | .ok ⟨some ⟨none, results⟩, none⟩ =>
            match results.bind List.head? with
            | none => .error (.simulation "simulation returned no result value")
            | some xdr =>
                (crates.fromXdr xdr).mapError fun reason =>
                  .xdr ("could not decode return value: " ++ reason)

def call (client : RpcClient) (functionName : String) (args : List ScVal)
    (reply : Request → Reply) : List Request × Except PlaygroundError ScVal :=
  match buildEnvelope client functionName args with
  | .error error => ([], .error error)
  | .ok envelope =>
      match crates.toXdr envelope with
      | .error reason => ([], .error (.xdr ("could not encode transaction: " ++ reason)))
      | .ok transaction =>
          let request : Request := ⟨client.rpcUrl, "simulateTransaction", transaction⟩
          ([request], readReply crates client (reply request))

/-! ## Lines -/

/-- `char::is_whitespace`. -/
def isWhitespace (char : Char) : Bool :=
  let code := char.toNat
  9 ≤ code && code ≤ 13 || code == 0x20 || code == 0x85 || code == 0xA0 || code == 0x1680 ||
    0x2000 ≤ code && code ≤ 0x200A || code == 0x2028 || code == 0x2029 || code == 0x202F ||
    code == 0x205F || code == 0x3000

def trim (line : String) : String :=
  String.ofList
    ((line.toList.dropWhile isWhitespace).reverse.dropWhile isWhitespace).reverse

def splitWhitespace (line : String) : List String :=
  (words (fun char => !isWhitespace char) line.toList).map String.ofList

def usageError (command usage : String) (rest : List String) : PlaygroundError :=
  .usage ("usage: " ++ command ++ " " ++ usage ++ " (got " ++ toString rest.length ++
    " argument(s))")

def pairCommand (command : String) (rest : List String) :
    Except PlaygroundError (String × List ScVal) :=
  match rest with
  | [subject, attestationType] => do
      let subject ← parseAddress crates subject
      let attestationType ← parseSymbol attestationType
      return (command, [subject, attestationType])
  | _ => .error (usageError command "<subject> <attestation_type>" rest)

def requested (line : String) : Except PlaygroundError (String × List ScVal) :=
  let command := (splitWhitespace line).headD ""
  let rest := (splitWhitespace line).tail
  if command = "get_attestation" then pairCommand crates command rest
  else if command = "is_valid" then pairCommand crates command rest
  else if command = "is_attestor" then
    match rest with
    | [attestor] => do
        let attestor ← parseAddress crates attestor
        return ("is_attestor", [attestor])
    | _ => .error (usageError command "<attestor>" rest)
  else if command = "get_attestation_count" then
    if rest.isEmpty then .ok ("get_attestation_count", [])
    else
      .error (.usage
        ("get_attestation_count takes no arguments (got " ++ toString rest.length ++ ")"))
  else
    .error (.usage ("unknown command '" ++ command ++ "' -- type 'help' for the command list"))

def dispatch (client : RpcClient) (line : String) (reply : Request → Reply) :
    List Request × Except PlaygroundError ScVal :=
  match requested crates line with
  | .error error => ([], .error error)
  | .ok (functionName, args) => call crates client functionName args reply

/-! ## The loop -/

def help : String :=
  "Commands:\n" ++
  "  get_attestation <subject:G...> <attestation_type:symbol>   fetch a stored attestation\n" ++
  "  is_valid <subject:G...> <attestation_type:symbol>          true iff active and unexpired\n" ++
  "  is_attestor <attestor:G...>                                allow-list membership check\n" ++
  "  get_attestation_count                                      running count of attestations\n" ++
  "  help                                                       show this message\n" ++
  "  exit | quit                                                leave the playground"

def greeting : String :=
  "anchorkit playground -- read-only contract calls. Type 'help' for commands, 'exit' to quit.\n"

def prompt : String := "anchorkit> "

/-- One round: whether standard output is flushed, the line, if one is read, and how the
endpoint replies. -/
structure Turn where
  flushed : Bool
  line : Option String
  reply : Request → Reply

structure Session where
  printed : List String
  requests : List Request

def Session.follow (printed : List String) (requests : List Request) (later : Session) :
    Session where
  printed := printed ++ later.printed
  requests := requests ++ later.requests

def shown : Except PlaygroundError ScVal → String
  | .ok value => formatScval crates value ++ "\n"
  | .error error => "Error: " ++ error.display ++ "\n"

/-- The input ends with the turns. -/
def loop (client : RpcClient) : List Turn → Session
  | [] => ⟨[prompt, "\n"], []⟩
  | turn :: turns =>
      if ¬ turn.flushed then ⟨[prompt], []⟩
      else
        match turn.line.map trim with
        | none => ⟨[prompt, "\n"], []⟩
        | some line =>
            if line = "" then .follow [prompt] [] (loop client turns)
            else if line = "exit" ∨ line = "quit" then ⟨[prompt], []⟩
            else if line = "help" then .follow [prompt, help ++ "\n"] [] (loop client turns)
            else
              .follow [prompt, shown crates (dispatch crates client line turn.reply).2]
                (dispatch crates client line turn.reply).1 (loop client turns)

def run (client : RpcClient) (turns : List Turn) : Session :=
  .follow [greeting] [] (loop crates client turns)

end Crates

/-! ## What is sent -/

def methodName : Contract.Call → String
  | .initializeContract _ => "initialize"
  | .getAdmin => "get_admin"
  | .setAdmin _ => "set_admin"
  | .isPaused => "is_paused"
  | .pause => "pause"
  | .unpause => "unpause"
  | .addAttestor _ => "add_attestor"
  | .removeAttestor _ => "remove_attestor"
  | .isAttestor _ => "is_attestor"
  | .renewAttestor _ => "renew_attestor"
  | .setDefaultMaxAttestationTtl _ => "set_default_max_attestation_ttl"
  | .setMaxAttestationTtl _ _ => "set_max_attestation_ttl"
  | .getMaxAttestationTtl _ => "get_max_attestation_ttl"
  | .attest _ _ => "attest"
  | .attestBatch _ _ => "attest_batch"
  | .getAttestation _ => "get_attestation"
  | .isValid _ => "is_valid"
  | .revoke _ _ => "revoke"
  | .renewAttestation _ _ => "renew_attestation"
  | .getAttestationCount => "get_attestation_count"
  | .listAttestationHistory .. => "list_attestation_history"
  | .initializeMultisig _ _ => "initialize_multisig"
  | .getMultisigConfig => "get_multisig_config"
  | .rotateSigners .. => "rotate_signers"

def methods : List String :=
  ["get_attestation", "is_valid", "is_attestor", "get_attestation_count"]

theorem isQuery_of_mem_methods {call : Contract.Call} (known : methodName call ∈ methods) :
    call.isQuery = true := by
  cases call with
  | getAdmin => rfl
  | isPaused => rfl
  | isAttestor attestor => rfl
  | getMaxAttestationTtl attestationType => rfl
  | getAttestation pair => rfl
  | isValid pair => rfl
  | getAttestationCount => rfl
  | listAttestationHistory pair startSeq limit reverse => rfl
  | getMultisigConfig => rfl
  | _ => exact absurd known (by simp [methodName, methods])

theorem step_of_isQuery {call : Contract.Call} (query : call.isQuery = true)
    (env : Contract.Env) (world : Contract.World) : world.step ⟨env, call⟩ = world := by
  have same := Contract.invoke_readOnly query env world
  unfold Contract.World.step Program.commit
  split
  · rename_i value later result
    rw [result] at same
    exact same
  · rfl

section Sent

variable {crates : Crates} {client : RpcClient}

theorem pairCommand_fst {command : String} {rest : List String} {found : String × List ScVal}
    (read : pairCommand crates command rest = .ok found) : found.1 = command := by
  unfold pairCommand at read
  split at read
  · rename_i subject attestationType
    cases address : parseAddress crates subject with
    | error error =>
        rw [address] at read
        cases read
    | ok value =>
        cases symbol : parseSymbol attestationType with
        | error error =>
            rw [address, symbol] at read
            cases read
        | ok named =>
            rw [address, symbol] at read
            cases read
            rfl
  · cases read

theorem requested_mem_methods {line : String} {found : String × List ScVal}
    (read : requested crates line = .ok found) : found.1 ∈ methods := by
  unfold requested at read
  dsimp only at read
  split at read
  · rename_i command
    rw [pairCommand_fst read, command]
    decide
  · split at read
    · rename_i command
      rw [pairCommand_fst read, command]
      decide
    · split at read
      · split at read
        · rename_i attestor _
          cases address : parseAddress crates attestor with
          | error error =>
              rw [address] at read
              cases read
          | ok value =>
              rw [address] at read
              cases read
              simp [methods]
        · cases read
      · split at read
        · split at read
          · cases read
            decide
          · cases read
        · cases read

/-- A request asks for the simulation of an unsigned call of a method. -/
structure Asks (crates : Crates) (client : RpcClient) (functionName : String)
    (request : Request) : Prop where
  url : request.url = client.rpcUrl
  method : request.method = "simulateTransaction"
  envelope : ∃ envelope operation, crates.toXdr envelope = .ok request.transaction ∧
    envelope.signatures = [] ∧ envelope.tx.operations = [operation] ∧ operation.auth = [] ∧
    operation.hostFunction.contractAddress = .contract client.contractId ∧
    operation.hostFunction.functionName = utf8Bytes functionName

theorem call_asks {functionName : String} {args : List ScVal} {reply : Request → Reply}
    {request : Request} (sent : request ∈ (call crates client functionName args reply).1) :
    Asks crates client functionName request := by
  unfold call at sent
  split at sent
  · cases sent
  · rename_i envelope built
    split at sent
    · cases sent
    · rename_i transaction encoded
      rw [List.mem_singleton] at sent
      subst sent
      unfold buildEnvelope at built
      split at built
      · cases built
        exact ⟨rfl, rfl, _, _, encoded, rfl, rfl, rfl, rfl, rfl⟩
      · cases built

theorem dispatch_asks {line : String} {reply : Request → Reply} {request : Request}
    (sent : request ∈ (dispatch crates client line reply).1) :
    ∃ functionName ∈ methods, Asks crates client functionName request := by
  unfold dispatch at sent
  split at sent
  · cases sent
  · rename_i functionName args read
    exact ⟨functionName, requested_mem_methods read, call_asks sent⟩

theorem loop_requests {Holds : Request → Prop}
    (each : ∀ line reply, ∀ request ∈ (dispatch crates client line reply).1, Holds request)
    (turns : List Turn) : ∀ request ∈ (loop crates client turns).requests, Holds request := by
  induction turns with
  | nil => exact nofun
  | cons turn turns ih =>
      unfold loop
      split
      · exact nofun
      · split
        · exact nofun
        · split
          · exact ih
          · split
            · exact nofun
            · split
              · exact ih
              · intro request member
                rcases List.mem_append.mp member with now | later
                · exact each _ _ request now
                · exact ih request later

/-- Whatever is typed, the playground asks for simulations of unsigned calls only, and
of methods that leave every state of the contract as it is. -/
theorem playground_only_reads (crates : Crates) (client : RpcClient) (turns : List Turn) :
    ∀ request ∈ (run crates client turns).requests,
      request.url = client.rpcUrl ∧ request.method = "simulateTransaction" ∧
        ∃ envelope operation, crates.toXdr envelope = .ok request.transaction ∧
          envelope.signatures = [] ∧ envelope.tx.operations = [operation] ∧
          operation.auth = [] ∧
          operation.hostFunction.contractAddress = .contract client.contractId ∧
          ∀ call : Contract.Call,
            utf8Bytes (methodName call) = operation.hostFunction.functionName →
            ∀ (env : Contract.Env) (world : Contract.World),
              world.step ⟨env, call⟩ = world := by
  intro request sent
  have known : ∃ functionName ∈ methods, Asks crates client functionName request :=
    loop_requests (fun line reply request member => dispatch_asks member) turns request sent
  obtain ⟨functionName, member, asks⟩ := known
  obtain ⟨envelope, operation, encoded, unsigned, single, unauthorised, contract, named⟩ :=
    asks.envelope
  refine ⟨asks.url, asks.method, envelope, operation, encoded, unsigned, single, unauthorised,
    contract, ?_⟩
  intro call same env world
  have name : methodName call = functionName := Ascii.utf8Bytes_injective (same.trans named)
  exact step_of_isQuery (isQuery_of_mem_methods (name ▸ member)) env world

end Sent

/-! ## What is shown -/

section Shown

variable (crates : Crates) (scAddress : Contract.Address → ScAddress)

def symbolText (symbol : Contract.Symbol) : String := String.ofList symbol.chars

def statusName : Contract.AttestationStatus → String
  | .active => "Active"
  | .revoked => "Revoked"

/-- The host writes a struct as a map from the names of its fields, in their order, and
a variant as a list of its name. -/
def attestationScval (attestation : Contract.Attestation) : ScVal :=
  let field := fun (name : String) (value : ScVal) => (ScVal.symbol (utf8Bytes name), value)
  .map (some [
    field "attestation_type" (.symbol (utf8Bytes (symbolText attestation.attestationType))),
    field "attestor" (.address (scAddress attestation.attestor)),
    field "expires_at" (.u64 attestation.expiresAt),
    field "issued_at" (.u64 attestation.issuedAt),
    field "payload_hash" (.bytes attestation.payloadHash.bytes),
    field "status" (.vec (some [.symbol (utf8Bytes (statusName attestation.status))])),
    field "subject" (.address (scAddress attestation.subject))])

inductive Query where
  | getAttestation (pair : Contract.Pair)
  | isValid (pair : Contract.Pair)
  | isAttestor (attestor : Contract.Address)
  | getAttestationCount

def Query.method : Query → String
  | .getAttestation _ => "get_attestation"
  | .isValid _ => "is_valid"
  | .isAttestor _ => "is_attestor"
  | .getAttestationCount => "get_attestation_count"

def Query.answer (env : Contract.Env) (world : Contract.World) :
    Query → Except Contract.Failure ScVal
  | .getAttestation pair =>
      (Contract.Entry.getAttestation pair env world).1.map (attestationScval scAddress)
  | .isValid pair => (Contract.Entry.isValid pair env world).1.map .bool
  | .isAttestor attestor => (Contract.Entry.isAttestor attestor env world).1.map .bool
  | .getAttestationCount => (Contract.Entry.getAttestationCount env world).1.map .u64

def pairArguments (pair : Contract.Pair) : List ScVal :=
  [.address (scAddress pair.1), .symbol (utf8Bytes (symbolText pair.2))]

def Query.arguments : Query → List ScVal
  | .getAttestation pair => pairArguments scAddress pair
  | .isValid pair => pairArguments scAddress pair
  | .isAttestor attestor => [.address (scAddress attestor)]
  | .getAttestationCount => []

def Names (text : String) (address : Contract.Address) : Prop :=
  parseAddress crates text = .ok (.address (scAddress address))

/-- The words of a line that asks for a query, after the name of the method. -/
def Query.Spelled : Query → List String → Prop
  | .getAttestation pair, rest =>
      ∃ text, rest = [text, symbolText pair.2] ∧ Names crates scAddress text pair.1
  | .isValid pair, rest =>
      ∃ text, rest = [text, symbolText pair.2] ∧ Names crates scAddress text pair.1
  | .isAttestor attestor, rest => ∃ text, rest = [text] ∧ Names crates scAddress text attestor
  | .getAttestationCount, rest => rest = []

end Shown

/-! ## The endpoint -/

/-- The host reads a symbol of legal characters only. -/
def symbolOf (bytes : List UInt8) : Option Contract.Symbol :=
  let chars := bytes.map fun byte => Char.ofNat byte.toNat
  if short : chars.length ≤ 32 then
    if legal : chars.all (fun char => char.isAlphanum || char == '_') = true then
      some ⟨chars, short, by simpa using legal⟩
    else none
  else none

/-- An endpoint with the contract deployed: its own readings of XDR and of addresses, the
texts of its errors, and what it replies to all that is no query of the contract. -/
structure Endpoint where
  url : String
  contractId : Key
  decode : String → Option TransactionEnvelope
  encode : ScVal → String
  address : ScAddress → Contract.Address
  scAddress : Contract.Address → ScAddress
  reason : Contract.Failure → String
  other : Request → Reply

def Endpoint.queryOf (endpoint : Endpoint) (called : InvokeContractArgs) : Option Query :=
  match called.args with
  | [.address subject, .symbol attestationType] =>
      (symbolOf attestationType).bind fun attestationType =>
        let pair := (endpoint.address subject, attestationType)
        if called.functionName = utf8Bytes "get_attestation" then some (.getAttestation pair)
        else if called.functionName = utf8Bytes "is_valid" then some (.isValid pair)
        else none
  | [.address attestor] =>
      if called.functionName = utf8Bytes "is_attestor" then
        some (.isAttestor (endpoint.address attestor))
      else none
  | [] =>
      if called.functionName = utf8Bytes "get_attestation_count" then some .getAttestationCount
      else none
  | _ => none

/-- The query of the contract that a request asks to simulate. -/
def Endpoint.simulated (endpoint : Endpoint) (request : Request) : Option Query :=
  if request.url = endpoint.url ∧ request.method = "simulateTransaction" then
    match (endpoint.decode request.transaction).map fun envelope => envelope.tx.operations with
    | some [operation] =>
        match operation.hostFunction.contractAddress with
        | .contract key =>
            if key = endpoint.contractId then endpoint.queryOf operation.hostFunction else none
        | _ => none
    | _ => none
  else none

def Endpoint.reply (endpoint : Endpoint) (env : Contract.Env) (world : Contract.World)
    (request : Request) : Reply :=
  match endpoint.simulated request with
  | none => endpoint.other request
  | some query =>
      match query.answer endpoint.scAddress env world with
      | .ok value => .response 200 (.ok ⟨some ⟨none, some [endpoint.encode value]⟩, none⟩)
      | .error failure => .response 200 (.ok ⟨some ⟨some (endpoint.reason failure), none⟩, none⟩)

/-- A line that asks for a query, and the contract as it stands then. -/
structure Asked where
  line : String
  query : Query
  env : Contract.Env
  world : Contract.World

def Asked.turn (endpoint : Endpoint) (asked : Asked) : Turn where
  flushed := true
  line := some asked.line
  reply := endpoint.reply asked.env asked.world

def Asked.answer (endpoint : Endpoint) (asked : Asked) : Except Contract.Failure ScVal :=
  asked.query.answer endpoint.scAddress asked.env asked.world

def Asked.text (crates : Crates) (endpoint : Endpoint) (asked : Asked) : String :=
  shown crates ((asked.answer endpoint).mapError fun failure =>
    .simulation (endpoint.reason failure))

def Query.addresses : Query → List Contract.Address
  | .getAttestation pair => [pair.1]
  | .isValid pair => [pair.1]
  | .isAttestor attestor => [attestor]
  | .getAttestationCount => []

section Served

variable (crates : Crates) (client : RpcClient) (endpoint : Endpoint)

/-- The unsigned transaction that calls a method of the contract. -/
def Query.envelope (query : Query) : TransactionEnvelope where
  tx := {
    sourceAccount := client.sourceAccount
    fee := 100
    seqNum := 0
    operations := [{
      hostFunction := ⟨.contract client.contractId, utf8Bytes query.method,
        query.arguments endpoint.scAddress⟩
      auth := [] }] }
  signatures := []

/-- The line spells the query, and both sides read the XDR and the addresses of the query
and of its answer alike. -/
structure Asked.Served (asked : Asked) : Prop where
  spelled : ∃ rest, splitWhitespace asked.line = asked.query.method :: rest ∧
    asked.query.Spelled crates endpoint.scAddress rest
  addresses : ∀ address ∈ asked.query.addresses,
    endpoint.address (endpoint.scAddress address) = address
  sent : ∃ transaction,
    crates.toXdr (asked.query.envelope client endpoint) = .ok transaction ∧
      endpoint.decode transaction = some (asked.query.envelope client endpoint)
  answered : ∀ value, asked.answer endpoint = .ok value →
    crates.fromXdr (endpoint.encode value) = .ok value

end Served

section Words

variable {crates : Crates} {client : RpcClient} {scAddress : Contract.Address → ScAddress}

theorem words_dropWhile (text : List Char) :
    words (fun char => !isWhitespace char) (text.dropWhile isWhitespace) =
      words (fun char => !isWhitespace char) text := by
  induction text with
  | nil => rfl
  | cons first rest ih =>
      by_cases space : isWhitespace first = true
      · rw [List.dropWhile_cons_of_pos space, ih, words_cons (by simp [space])]
      · rw [List.dropWhile_cons_of_neg space]

theorem words_rdropWhile (text : List Char) :
    words (fun char => !isWhitespace char) (text.reverse.dropWhile isWhitespace).reverse =
      words (fun char => !isWhitespace char) text := by
  induction text using List.reverseRecOn with
  | nil => rfl
  | append_singleton front last ih =>
      rw [List.reverse_append, List.reverse_singleton, List.singleton_append]
      by_cases space : isWhitespace last = true
      · rw [List.dropWhile_cons_of_pos space, ih, words_append_cons (by simp [space]),
          words_nil, List.append_nil]
      · rw [List.dropWhile_cons_of_neg space]
        simp

theorem splitWhitespace_trim (line : String) :
    splitWhitespace (trim line) = splitWhitespace line := by
  unfold splitWhitespace trim
  rw [String.toList_ofList, words_rdropWhile, words_dropWhile]

theorem symbol_ascii (symbol : Contract.Symbol) {char : Char} (member : char ∈ symbol.chars) :
    char.toNat < 128 := by
  rcases symbol.legal char member with alphanumeric | rfl
  · rw [Ascii.isAlphanum_iff, Ascii.isUpper_iff, Ascii.isLower_iff, Ascii.isDigit_iff]
      at alphanumeric
    omega
  · decide

theorem utf8Bytes_symbolText (symbol : Contract.Symbol) :
    utf8Bytes (symbolText symbol) = symbol.chars.map fun char => UInt8.ofNat char.toNat := by
  have single : ∀ char ∈ symbol.chars,
      String.utf8EncodeChar char = [UInt8.ofNat char.toNat] :=
    fun char member => Ascii.utf8EncodeChar_of_lt (symbol_ascii symbol member)
  rw [symbolText, Ascii.utf8Bytes_ofList, List.flatMap_congr single, List.map_eq_flatMap]

theorem parseSymbol_symbolText (symbol : Contract.Symbol) :
    parseSymbol (symbolText symbol) = .ok (.symbol (utf8Bytes (symbolText symbol))) := by
  refine if_pos ?_
  rw [utf8Bytes_symbolText, List.length_map]
  exact symbol.short

theorem symbolOf_symbolText (symbol : Contract.Symbol) :
    symbolOf (utf8Bytes (symbolText symbol)) = some symbol := by
  have back : (utf8Bytes (symbolText symbol)).map (fun byte => Char.ofNat byte.toNat) =
      symbol.chars := by
    have same : ∀ char ∈ symbol.chars,
        Char.ofNat (UInt8.ofNat char.toNat).toNat = char := by
      intro char member
      have small := symbol_ascii symbol member
      rw [UInt8.toNat_ofNat', Nat.mod_eq_of_lt (by omega), Char.ofNat_toNat]
    rw [utf8Bytes_symbolText, List.map_map]
    exact (List.map_congr_left same).trans (List.map_id _)
  unfold symbolOf
  dsimp only
  simp only [back]
  rw [dif_pos symbol.short]
  exact dif_pos (by simpa using symbol.legal)

theorem pairCommand_of_names {text : String} {pair : Contract.Pair}
    (names : Names crates scAddress text pair.1) (command : String) :
    pairCommand crates command [text, symbolText pair.2] =
      .ok (command, pairArguments scAddress pair) := by
  unfold pairCommand
  dsimp only
  rw [names, parseSymbol_symbolText]
  rfl

theorem Query.method_mem (query : Query) : query.method ∈ methods := by
  cases query with
  | getAttestation pair => simp [Query.method, methods]
  | isValid pair => simp [Query.method, methods]
  | isAttestor attestor => simp [Query.method, methods]
  | getAttestationCount => simp [Query.method, methods]

theorem requested_of_spelled {query : Query} {line : String} {rest : List String}
    (split : splitWhitespace line = query.method :: rest)
    (spelled : query.Spelled crates scAddress rest) :
    requested crates line = .ok (query.method, query.arguments scAddress) := by
  unfold requested
  rw [split]
  cases query with
  | getAttestation pair =>
      obtain ⟨text, rfl, names⟩ := spelled
      exact pairCommand_of_names names _
  | isValid pair =>
      obtain ⟨text, rfl, names⟩ := spelled
      exact pairCommand_of_names names _
  | isAttestor attestor =>
      obtain ⟨text, rfl, names⟩ := spelled
      dsimp only [List.headD_cons, List.tail_cons, Query.method]
      rw [if_neg (by decide), if_neg (by decide), if_pos rfl, names]
      rfl
  | getAttestationCount =>
      obtain rfl : rest = [] := spelled
      rfl

theorem trim_of_method {line name : String} {rest : List String}
    (spelled : splitWhitespace line = name :: rest) (known : name ∈ methods) :
    trim line ≠ "" ∧ ¬ (trim line = "exit" ∨ trim line = "quit") ∧ trim line ≠ "help" := by
  rw [← splitWhitespace_trim] at spelled
  have other : ∀ text, (splitWhitespace text).headD "" ∉ methods → trim line ≠ text := by
    rintro text unknown rfl
    rw [spelled] at unknown
    exact unknown known
  refine ⟨other "" (by decide +kernel), ?_, other "help" (by decide +kernel)⟩
  rintro (exits | quits)
  · exact other "exit" (by decide +kernel) exits
  · exact other "quit" (by decide +kernel) quits

end Words

section Showing

variable {crates : Crates} {client : RpcClient} {endpoint : Endpoint} {asked : Asked}

theorem queryOf_arguments {query : Query}
    (addresses : ∀ address ∈ query.addresses,
      endpoint.address (endpoint.scAddress address) = address) (contract : ScAddress) :
    endpoint.queryOf ⟨contract, utf8Bytes query.method, query.arguments endpoint.scAddress⟩ =
      some query := by
  cases query with
  | getAttestation pair =>
      have known := addresses pair.1 (List.mem_singleton_self _)
      simp only [Endpoint.queryOf, Query.arguments, pairArguments, symbolOf_symbolText, known,
        Query.method, Option.bind_some, if_pos]
  | isValid pair =>
      have known := addresses pair.1 (List.mem_singleton_self _)
      have different : utf8Bytes "is_valid" ≠ utf8Bytes "get_attestation" := by
        decide +kernel
      simp only [Endpoint.queryOf, Query.arguments, pairArguments, symbolOf_symbolText, known,
        Query.method, Option.bind_some, if_pos, if_neg different]
  | isAttestor attestor =>
      have known := addresses attestor (List.mem_singleton_self _)
      simp only [Endpoint.queryOf, Query.arguments, known, Query.method, if_pos]
  | getAttestationCount => rfl

theorem buildEnvelope_query (query : Query) :
    buildEnvelope client query.method (query.arguments endpoint.scAddress) =
      .ok (query.envelope client endpoint) := by
  have short : ∀ name ∈ methods, (utf8Bytes name).length ≤ 32 := by decide +kernel
  exact if_pos (short _ query.method_mem)

structure Endpoint.Hosts (endpoint : Endpoint) (client : RpcClient) : Prop where
  url : endpoint.url = client.rpcUrl
  contractId : endpoint.contractId = client.contractId

theorem Asked.Served.simulated (served : asked.Served crates client endpoint)
    (hosts : endpoint.Hosts client) {transaction : String}
    (decoded : endpoint.decode transaction = some (asked.query.envelope client endpoint)) :
    endpoint.simulated ⟨client.rpcUrl, "simulateTransaction", transaction⟩ =
      some asked.query := by
  unfold Endpoint.simulated
  rw [if_pos ⟨hosts.url.symm, rfl⟩, decoded]
  dsimp only [Option.map_some, Query.envelope]
  rw [if_pos hosts.contractId.symm]
  exact queryOf_arguments served.addresses _

theorem Asked.Served.readReply_eq (served : asked.Served crates client endpoint)
    {request : Request} (simulated : endpoint.simulated request = some asked.query) :
    readReply crates client (endpoint.reply asked.env asked.world request) =
      (asked.answer endpoint).mapError fun failure => .simulation (endpoint.reason failure) := by
  unfold Endpoint.reply
  rw [simulated]
  have answered := served.answered
  unfold Asked.answer at answered ⊢
  dsimp only
  cases answer : asked.query.answer endpoint.scAddress asked.env asked.world with
  | ok value =>
      have read : readReply crates client
          (.response 200 (.ok ⟨some ⟨none, some [endpoint.encode value]⟩, none⟩)) =
            (crates.fromXdr (endpoint.encode value)).mapError fun reason =>
              .xdr ("could not decode return value: " ++ reason) := rfl
      rw [read, answered value answer]
      rfl
  | error failure => rfl

theorem Asked.Served.loop_cons (served : asked.Served crates client endpoint)
    (hosts : endpoint.Hosts client) (turns : List Turn) :
    ∃ request, endpoint.simulated request = some asked.query ∧
      loop crates client (asked.turn endpoint :: turns) =
        .follow [prompt, asked.text crates endpoint] [request] (loop crates client turns) := by
  obtain ⟨rest, split, spelled⟩ := served.spelled
  obtain ⟨notEmpty, notExit, notHelp⟩ := trim_of_method split asked.query.method_mem
  rw [← splitWhitespace_trim] at split
  obtain ⟨transaction, encoded, decoded⟩ := served.sent
  have simulated := served.simulated hosts decoded
  have dispatched : dispatch crates client (trim asked.line)
      (endpoint.reply asked.env asked.world) =
        ([⟨client.rpcUrl, "simulateTransaction", transaction⟩],
          (asked.answer endpoint).mapError fun failure =>
            .simulation (endpoint.reason failure)) := by
    unfold dispatch
    rw [requested_of_spelled split spelled]
    dsimp only
    unfold call
    rw [buildEnvelope_query]
    dsimp only
    rw [encoded]
    dsimp only
    rw [served.readReply_eq simulated]
  refine ⟨_, simulated, ?_⟩
  rw [Asked.turn, loop, if_neg (by simp)]
  dsimp only [Option.map_some]
  rw [if_neg notEmpty, if_neg notExit, if_neg notHelp, dispatched, Asked.text]

/-- With an endpoint that simulates the contract, a session of queries shows the answer
of the contract to each, in order and as it stands then, a failed one included, and
sends one request for each, in which the endpoint reads the query. -/
theorem playground_shows_contract (crates : Crates) (client : RpcClient) (endpoint : Endpoint)
    (hosts : endpoint.Hosts client) (asks : List Asked)
    (served : ∀ asked ∈ asks, asked.Served crates client endpoint) :
    let session := run crates client (asks.map (Asked.turn endpoint))
    session.printed =
        greeting :: (asks.flatMap (fun asked => [prompt, asked.text crates endpoint]) ++
          [prompt, "\n"]) ∧
      List.Forall₂ (fun asked request => endpoint.simulated request = some asked.query) asks
        session.requests := by
  intro session
  have looped : (loop crates client (asks.map (Asked.turn endpoint))).printed =
        asks.flatMap (fun asked => [prompt, asked.text crates endpoint]) ++ [prompt, "\n"] ∧
      List.Forall₂ (fun asked request => endpoint.simulated request = some asked.query) asks
        (loop crates client (asks.map (Asked.turn endpoint))).requests := by
    clear session
    induction asks with
    | nil => exact ⟨rfl, .nil⟩
    | cons asked asks ih =>
        obtain ⟨printed, sent⟩ :=
          ih fun other member => served other (List.mem_cons_of_mem _ member)
        obtain ⟨request, simulated, steps⟩ :=
          (served asked List.mem_cons_self).loop_cons hosts (asks.map (Asked.turn endpoint))
        rw [List.map_cons, steps]
        refine ⟨?_, .cons simulated sent⟩
        rw [Session.follow, printed, List.flatMap_cons, List.append_assoc]
  refine ⟨?_, looped.2⟩
  dsimp only [session]
  rw [run, Session.follow, looped.1]
  rfl

end Showing

def sampleKey : Key := ⟨List.replicate 32 7, rfl⟩

/-- Crates that know one account and one value; a transaction is named by what it calls. -/
def sampleCrates : Crates where
  accountKey text := if text = "GATTESTOR" then .ok sampleKey else .error "invalid"
  contractKey _ := .error "invalid"
  showAccount _ := "GATTESTOR"
  showContract _ := "CCONTRACT"
  escaped _ := ""
  statusText _ := ""
  toXdr envelope := .ok (Hex.encode
    (envelope.tx.operations.flatMap fun operation => operation.hostFunction.functionName))
  fromXdr xdr := if xdr = "AAAB" then .ok (.bool true) else .error "invalid"

def sampleClient : RpcClient := ⟨"rpc", sampleKey, sampleKey⟩

def sampleEndpoint : Endpoint where
  url := "rpc"
  contractId := sampleKey
  decode text :=
    if text = Hex.encode (utf8Bytes "is_attestor") then some {
      tx := {
        sourceAccount := sampleKey
        fee := 100
        seqNum := 0
        operations := [{
          hostFunction := ⟨.contract sampleKey, utf8Bytes "is_attestor",
            [.address (.account sampleKey)]⟩
          auth := [] }] }
      signatures := [] }
    else none
  encode _ := "AAAB"
  address _ := ⟨1⟩
  scAddress _ := .account sampleKey
  reason _ := ""
  other _ := .unreachable "unknown request"

def sampleAsked : Asked where
  line := "  is_attestor\tGATTESTOR "
  query := .isAttestor ⟨1⟩
  env := Contract.sampleEnv
  world := Contract.reached Contract.sampleDeployment

theorem sampleAsked_answer : sampleAsked.answer sampleEndpoint = .ok (.bool true) := by
  have member : Contract.Storage.isAttestor ⟨1⟩ sampleAsked.world = true := by decide +kernel
  exact congrArg (fun flag => Except.ok (ScVal.bool flag)) member

theorem sampleAsked_served : sampleAsked.Served sampleCrates sampleClient sampleEndpoint where
  spelled := ⟨["GATTESTOR"], by decide +kernel, "GATTESTOR", rfl, rfl⟩
  addresses := by
    intro address member
    cases List.mem_singleton.mp member
    rfl
  sent := by
    refine ⟨Hex.encode (utf8Bytes "is_attestor"), ?_, ?_⟩
    · exact congrArg (fun name => Except.ok (Hex.encode name)) (List.append_nil _)
    · dsimp only [sampleEndpoint]
      rw [if_pos rfl]
      rfl
  answered := by
    intro value answer
    rw [sampleAsked_answer] at answer
    cases answer
    rfl

theorem sampleAsked_shown :
    (run sampleCrates sampleClient [sampleAsked.turn sampleEndpoint]).printed =
      [greeting, prompt, "true\n", prompt, "\n"] := by
  have shows := (playground_shows_contract sampleCrates sampleClient sampleEndpoint ⟨rfl, rfl⟩
    [sampleAsked] (by simpa using sampleAsked_served)).1
  rw [List.flatMap_singleton, Asked.text, sampleAsked_answer] at shows
  exact shows

theorem sampleAsked_only_reads :
    ∃ request ∈ (run sampleCrates sampleClient [sampleAsked.turn sampleEndpoint]).requests,
      request.method = "simulateTransaction" := by
  obtain ⟨request, _, steps⟩ := sampleAsked_served.loop_cons ⟨rfl, rfl⟩ []
  have sent : request ∈
      (run sampleCrates sampleClient [sampleAsked.turn sampleEndpoint]).requests := by
    rw [run, steps]
    exact List.mem_cons_self
  exact ⟨request, sent, (playground_only_reads sampleCrates sampleClient
    [sampleAsked.turn sampleEndpoint] request sent).2.1⟩

end AnchorKit.Cli.Playground
