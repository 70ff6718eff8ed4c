import EntityQuery.Derive.Description
import EntityQuery.Proofs.Derive.Type

/-!
# Evaluating descriptions

The code of a description is read from its tokens, one call after another, and the chain of calls is
then evaluated.  A reader takes what it reads from the start of the tokens and leaves the others.
What is written for a value is read as this value, whatever stands behind it.
-/

namespace EntityQuery

open Tokens

abbrev Reader := StateT Tokens Option

namespace Reader

def expect (expected : Tokens) : Reader Unit := fun tokens =>
  (tokens.dropPrefix? expected).map fun rest => ((), rest)

def token : Reader String
  | [] => none
  | token :: rest => some (token, rest)

/-- What stands between the quotes of a literal. -/
def unquoted? (token : String) : Option String :=
  match token.toList with
  | '"' :: rest => if rest.getLast? = some '"' then some (String.ofList rest.dropLast) else none
  | _ => none

def literal : Reader String := do
  unquoted? (← token)

/-- A type and the angle bracket behind it. -/
def type : Reader Tokens := untilClosed? .none

/-- Reads values one after another, up to the tokens that end them. -/
def sequence (ending : Tokens) (reader : Reader α) (tokens : Tokens) : Option (List α × Tokens) :=
  match tokens.dropPrefix? ending with
  | some rest => some ([], rest)
  | none =>
      match reader tokens with
      | none => none
      | some (value, rest) =>
          if _ : rest.length < tokens.length then
            (sequence ending reader rest).map fun (values, after) => (value :: values, after)
          else none
termination_by tokens.length

end Reader

open Reader

/-! ### Calls -/

def PropertyCall.reader : Reader PropertyCall := do
  expect ["."]
  let method ← token
  expect ["("]
  match method with
  | "column" => argument .column
  | "reverse_column" => argument .reverseColumn
  | "key_column" => argument .keyColumn
  | "id" => do
      expect [")"]
      return .identifier
  | _ => failure
where
  argument (call : String → PropertyCall) : Reader PropertyCall := do
    let name ← literal
    expect [")"]
    return call name

/-- The arguments of the function that starts the description of a property. -/
def Shape.reader (function : String) : Reader (String × Shape Tokens) := do
  match function with
  | "simple" => do
      expect ["("]
      let name ← literal
      expect [")"]
      return (name, .simple)
  | "entity" => related .reference
  | "list" => related (.collection .list)
  | "set" => related (.collection .set)
  | "map" => related (.collection .map)
  | "embedded" => do
      expect ["::", "<"]
      let target ← type
      expect ["("]
      let name ← literal
      expect [","]
      let lead ← literal
      expect [")"]
      return (name, .embedded target lead)
  | _ => failure
where
  related (shape : Tokens → Shape Tokens) : Reader (String × Shape Tokens) := do
    expect ["::", "<"]
    let target ← type
    expect ["("]
    let name ← literal
    expect [")"]
    return (name, shape target)

/-- The calls of a property end with the bracket of the call that it is an argument of. -/
def PropertyChain.reader : Reader PropertyChain := do
  expect (mappingModule ++ ["PropertyDescriptor", "::"])
  let (name, shape) ← Shape.reader (← token)
  let calls ← sequence [")"] PropertyCall.reader
  return ⟨name, shape, calls⟩

def EntityCall.reader : Reader EntityCall := do
  expect ["."]
  let method ← token
  expect ["("]
  match method with
  | "table" => do
      let name ← literal
      expect [")"]
      return .table name
  | "property" => return .property (← PropertyChain.reader)
  | _ => failure

def EntityChain.reader : Reader EntityChain := do
  expect (mappingModule ++ ["EntityDescriptor", "::", "builder", "("])
  let name ← literal
  expect [")"]
  let calls ← sequence [".", "build", "(", ")"] EntityCall.reader
  return ⟨name, calls⟩

/-- The type that the code describes, and the entity that the description comes to. -/
def EntityDeclaration.reader : Reader (String × EntityDeclaration Tokens) := do
  expect (["impl"] ++ mappingModule ++ ["Entity", "for"])
  let type ← token
  expect (["\x7b", "fn", "describe", "(", ")", "->"] ++ mappingModule ++
    ["EntityDescriptor", "\x7b"])
  let chain ← EntityChain.reader
  expect ["\x7d", "\x7d"]
  return (type, chain.declaration)

/-! ### What is written is read -/

def Reader.Reads (reader : Reader α) (tokens : Tokens) (value : α) : Prop :=
  ∀ rest, reader (tokens ++ rest) = some (value, rest)

namespace Reader

theorem reads_expect (expected : Tokens) : Reads (expect expected) expected () := by
  intro rest
  have hprefix : (expected ++ rest).dropPrefix? expected = some rest :=
    List.dropPrefix?_eq_some_iff.mpr ⟨expected, rfl, beq_self_eq_true expected⟩
  rw [expect, hprefix]
  rfl

theorem reads_token (name : String) : Reads token [name] name := fun _ => rfl

theorem unquoted?_literal (content : String) :
    unquoted? (Tokens.literal content) = some content := by
  have hchars : (Tokens.literal content).toList = '"' :: (content.toList ++ ['"']) := by
    rw [Tokens.literal, String.toList_append, String.toList_append]
    rfl
  have hlast : (content.toList ++ ['"']).getLast? = some '"' := List.getLast?_concat
  simp only [unquoted?, hchars, hlast, if_true, List.dropLast_concat, String.ofList_toList]

theorem reads_pure (value : α) : Reads (pure value) [] value := fun _ => rfl

theorem Reads.bind {first : Reader α} {next : α → Reader β} {tokens others : Tokens} {value : α}
    {result : β} (hfirst : Reads first tokens value) (hnext : Reads (next value) others result) :
    Reads (first >>= next) (tokens ++ others) result := by
  intro rest
  have hrest : (first >>= next) (tokens ++ (others ++ rest)) = next value (others ++ rest) := by
    change (first (tokens ++ (others ++ rest)) >>= fun entry => next entry.1 entry.2) = _
    rw [hfirst]
    rfl
  rw [List.append_assoc, hrest, hnext]

theorem reads_literal (content : String) : Reads literal [Tokens.literal content] content := by
  intro rest
  change (unquoted? (Tokens.literal content) >>= fun value => some (value, rest)) = _
  rw [unquoted?_literal]
  rfl

theorem reads_type {target : Tokens} (h : target.IsWhole) :
    Reads type (target ++ [">"]) target := by
  intro rest
  rw [List.append_assoc]
  exact h.untilClosed?_eq rest

theorem sequence_eq {reader : Reader α} {ending tokens rest : Tokens} {value : α}
    (hending : tokens.dropPrefix? ending = none) (hvalue : reader tokens = some (value, rest))
    (hshorter : rest.length < tokens.length) :
    sequence ending reader tokens =
      (sequence ending reader rest).map fun (values, after) => (value :: values, after) := by
  rw [sequence, hending, hvalue]
  exact dif_pos hshorter

/-- What is written for a value is not mistaken for the end, so all values are read. -/
theorem reads_sequence {reader : Reader α} {written : α → Tokens} {ending : Tokens}
    {values : List α} (hread : ∀ value ∈ values, Reads reader (written value) value)
    (hending : ∀ value ∈ values, ∀ rest, (written value ++ rest).dropPrefix? ending = none) :
    Reads (sequence ending reader) (values.flatMap written ++ ending) values := by
  have hprefix : ∀ rest, (ending ++ rest).dropPrefix? ending = some rest := fun rest =>
    List.dropPrefix?_eq_some_iff.mpr ⟨ending, rfl, beq_self_eq_true ending⟩
  intro rest
  induction values with
  | nil =>
      rw [List.flatMap_nil, List.nil_append, sequence, hprefix]
  | cons value values ih =>
      obtain ⟨hvalue, hvalues⟩ := List.forall_mem_cons.mp hread
      obtain ⟨hstop, hstops⟩ := List.forall_mem_cons.mp hending
      have hwritten : written value ≠ [] := by
        intro hempty
        have hnone := hstop (ending ++ rest)
        rw [hempty, List.nil_append, hprefix] at hnone
        cases hnone
      have hpos := List.length_pos_iff.mpr hwritten
      have hassoc : (value :: values).flatMap written ++ ending ++ rest =
          written value ++ (values.flatMap written ++ ending ++ rest) := by
        rw [List.flatMap_cons, List.append_assoc, List.append_assoc, List.append_assoc]
      have hshorter : (values.flatMap written ++ ending ++ rest).length <
          (written value ++ (values.flatMap written ++ ending ++ rest)).length := by
        simp only [List.length_append]
        omega
      rw [hassoc, sequence_eq (hstop _) (hvalue _) hshorter, ih hvalues hstops]
      rfl

end Reader

theorem PropertyCall.reads_argument (call : String → PropertyCall) (name : String) :
    Reads (reader.argument call) [Tokens.literal name, ")"] (call name) :=
  (reads_literal name).bind ((reads_expect _).bind (reads_pure _))

theorem PropertyCall.reads_tokens (call : PropertyCall) : Reads reader call.tokens call := by
  cases call with
  | column name =>
      change Reads reader (["."] ++ (["column"] ++ (["("] ++ [Tokens.literal name, ")"]))) _
      exact (reads_expect _).bind ((reads_token _).bind
        ((reads_expect _).bind (reads_argument .column name)))
  | reverseColumn name =>
      change Reads reader (["."] ++ (["reverse_column"] ++ (["("] ++ [Tokens.literal name, ")"]))) _
      exact (reads_expect _).bind ((reads_token _).bind
        ((reads_expect _).bind (reads_argument .reverseColumn name)))
  | keyColumn name =>
      change Reads reader (["."] ++ (["key_column"] ++ (["("] ++ [Tokens.literal name, ")"]))) _
      exact (reads_expect _).bind ((reads_token _).bind
        ((reads_expect _).bind (reads_argument .keyColumn name)))
  | identifier =>
      change Reads reader (["."] ++ (["id"] ++ (["("] ++ ([")"] ++ [])))) _
      exact (reads_expect _).bind ((reads_token _).bind
        ((reads_expect _).bind ((reads_expect _).bind (reads_pure _))))

/-- The type and the arguments of the function that starts the description of a property. -/
def Shape.arguments (shape : Shape Tokens) (name : String) : Tokens :=
  (shape.start.2.1.elim [] fun type => ["::", "<"] ++ type ++ [">"]) ++
    ["("] ++ (Tokens.literal name :: shape.start.2.2) ++ [")"]

theorem Shape.reads_related (shape : Tokens → Shape Tokens) {target : Tokens} (h : target.IsWhole)
    (name : String) :
    Reads (reader.related shape)
      (["::", "<"] ++ target ++ [">"] ++ ["("] ++ [Tokens.literal name] ++ [")"])
      (name, shape target) := by
  have hsplit : ["::", "<"] ++ target ++ [">"] ++ ["("] ++ [Tokens.literal name] ++ [")"] =
      ["::", "<"] ++ ((target ++ [">"]) ++
        (["("] ++ ([Tokens.literal name] ++ ([")"] ++ [])))) := by
    simp
  rw [hsplit]
  exact (reads_expect _).bind ((reads_type h).bind ((reads_expect _).bind
    ((reads_literal name).bind ((reads_expect _).bind (reads_pure _)))))

theorem Shape.reads_arguments (shape : Shape Tokens)
    (h : ∀ target, shape.target? = some target → target.IsWhole) (name : String) :
    Reads (reader shape.start.1) (shape.arguments name) (name, shape) := by
  cases shape with
  | simple =>
      exact (reads_expect ["("]).bind ((reads_literal name).bind
        ((reads_expect [")"]).bind (reads_pure _)))
  | reference target => exact reads_related .reference (h target rfl) name
  | embedded target lead =>
      have hsplit : (embedded target lead).arguments name =
          ["::", "<"] ++ ((target ++ [">"]) ++ (["("] ++ ([Tokens.literal name] ++
            ([","] ++ ([Tokens.literal lead] ++ ([")"] ++ [])))))) := by
        simp [arguments, start]
      rw [hsplit]
      exact (reads_expect _).bind ((reads_type (h target rfl)).bind ((reads_expect _).bind
        ((reads_literal name).bind ((reads_expect _).bind ((reads_literal lead).bind
          ((reads_expect _).bind (reads_pure _)))))))
  | collection kind element =>
      cases kind with
      | list => exact reads_related (.collection .list) (h element rfl) name
      | set => exact reads_related (.collection .set) (h element rfl) name
      | map => exact reads_related (.collection .map) (h element rfl) name

/-- The types that a property refers to are whole. -/
def PropertyChain.IsWhole (chain : PropertyChain) : Prop :=
  ∀ target, chain.shape.target? = some target → target.IsWhole

theorem PropertyChain.reads_tokens {chain : PropertyChain} (h : chain.IsWhole) :
    Reads reader (chain.tokens ++ [")"]) chain := by
  have hsplit : chain.tokens ++ [")"] =
      (mappingModule ++ ["PropertyDescriptor", "::"]) ++ ([chain.shape.start.1] ++
        (chain.shape.arguments chain.name ++
          ((chain.calls.flatMap PropertyCall.tokens ++ [")"]) ++ []))) := by
    simp [tokens, Shape.arguments]
  rw [hsplit]
  refine (reads_expect _).bind ((reads_token _).bind ((chain.shape.reads_arguments h _).bind ?_))
  refine (reads_sequence (fun call _ => call.reads_tokens) fun call _ rest => ?_).bind
    (reads_pure _)
  cases call <;> rfl

theorem EntityCall.reads_tokens {call : EntityCall}
    (h : ∀ chain, call = .property chain → chain.IsWhole) : Reads reader call.tokens call := by
  cases call with
  | table name =>
      change Reads reader
        (["."] ++ (["table"] ++ (["("] ++ ([Tokens.literal name] ++ ([")"] ++ []))))) _
      exact (reads_expect _).bind ((reads_token _).bind ((reads_expect _).bind
        ((reads_literal name).bind ((reads_expect _).bind (reads_pure _)))))
  | property chain =>
      have hsplit : (property chain).tokens =
          ["."] ++ (["property"] ++ (["("] ++ ((chain.tokens ++ [")"]) ++ []))) := by
        simp [tokens, Tokens.call]
      rw [hsplit]
      exact (reads_expect _).bind ((reads_token _).bind ((reads_expect _).bind
        ((PropertyChain.reads_tokens (h chain rfl)).bind (reads_pure _))))

theorem EntityChain.reads_tokens {chain : EntityChain}
    (h : ∀ property, .property property ∈ chain.calls → property.IsWhole) :
    Reads reader chain.tokens chain := by
  have hsplit : chain.tokens =
      (mappingModule ++ ["EntityDescriptor", "::", "builder", "("]) ++
        ([Tokens.literal chain.name] ++ ([")"] ++
          ((chain.calls.flatMap EntityCall.tokens ++ [".", "build", "(", ")"]) ++ []))) := by
    simp [tokens, Tokens.call]
  have hcall : ∀ call ∈ chain.calls, Reads EntityCall.reader call.tokens call := by
    intro call hcall
    exact EntityCall.reads_tokens fun property hproperty => h property (hproperty ▸ hcall)
  rw [hsplit]
  refine (reads_expect _).bind ((reads_literal _).bind ((reads_expect _).bind ?_))
  refine (reads_sequence hcall fun call _ rest => ?_).bind (reads_pure _)
  cases call <;> rfl

/-! ### What is written is declared -/

theorem PropertyDeclaration.declaration_chain (property : PropertyDeclaration Tokens) :
    property.chain.declaration = property := by
  obtain ⟨name, shape, column, reverseColumn, keyColumn, isIdentifier⟩ := property
  cases column <;> cases reverseColumn <;> cases keyColumn <;> cases isIdentifier <;> rfl

theorem EntityDeclaration.declaration_chain (entity : EntityDeclaration Tokens) :
    entity.chain.declaration = entity := by
  have hproperties : ∀ (properties : List (PropertyDeclaration Tokens))
      (start : EntityDeclaration Tokens),
      (properties.map fun property => EntityCall.property property.chain).foldl EntityCall.apply
        start = { start with properties := start.properties ++ properties } := by
    intro properties
    induction properties with
    | nil => simp
    | cons property properties ih =>
        intro start
        rw [List.map_cons, List.foldl_cons, ih, EntityCall.apply,
          PropertyDeclaration.declaration_chain, List.append_assoc, List.singleton_append]
  obtain ⟨name, table, properties⟩ := entity
  rw [EntityChain.declaration, chain, List.foldl_append, hproperties]
  cases table <;> rfl

/-- The code of a description is read as the entity that it describes. -/
theorem EntityDeclaration.reads_code {entity : EntityDeclaration Tokens}
    (h : ∀ property ∈ entity.properties, ∀ target, property.shape.target? = some target →
      target.IsWhole) (type : String) : Reads reader (entity.code type) (type, entity) := by
  have hsplit : entity.code type =
      (["impl"] ++ mappingModule ++ ["Entity", "for"]) ++ ([type] ++
        ((["\x7b", "fn", "describe", "(", ")", "->"] ++ mappingModule ++
          ["EntityDescriptor", "\x7b"]) ++ (entity.chain.tokens ++ (["\x7d", "\x7d"] ++ [])))) := by
    simp [code, call]
  have hchain : ∀ property, .property property ∈ entity.chain.calls → property.IsWhole := by
    intro property hproperty
    rcases List.mem_append.mp hproperty with htable | hproperty
    · obtain ⟨table, -, htable⟩ := Option.map_eq_some_iff.mp (Option.mem_toList.mp htable)
      cases htable
    · obtain ⟨declared, hdeclared, heq⟩ := List.mem_map.mp hproperty
      cases heq
      exact h declared hdeclared
  have hreads : Reads reader (entity.code type) (type, entity.chain.declaration) := by
    rw [hsplit]
    exact (reads_expect _).bind ((reads_token _).bind ((reads_expect _).bind
      ((EntityChain.reads_tokens hchain).bind ((reads_expect _).bind (reads_pure _)))))
  rwa [declaration_chain] at hreads

end EntityQuery
