import ApiTypes.Descriptor.Operation
import ApiTypes.Document.Basic
import ApiTypes.Naming.Suggestions
import ApiTypes.Resolution.SchemaType
import ApiTypes.Text.LetterCase
import ApiTypes.Text.Whole

/-!
# Operations of a document

The descriptors of operations, and the names that they suggest for the models they use: a body or
a response that refers to a model with a made-up name may carry the name of its operation.

* `Scope.parameter`, `Scope.body`, `Scope.response` — the parts of an operation.
* `Scope.suggestBody`, `Scope.suggestResponse` — the names that they suggest.
* `Scope.operation`, `Scope.operations` — whole operations.
-/

namespace ApiTypes

variable [Spelling]

/-! ## Facts of operations -/

/-- Whether a code stands for success: a whole number from 200 to 299, or, when it is no code of
three digits, a text that starts with 2. -/
def isSuccessCode (code : String) : Bool :=
  let startsWithTwo := code.toList.head? == some '2'
  match Text.whole? code with
  | some n => if 100 ≤ n ∧ n ≤ 999 then 200 ≤ n && n ≤ 299 else startsWithTwo
  | none => startsWithTwo

/-- The id of an operation: the one that it declares, or else one made from its method and path. -/
def operationIdOf (config : Config) (o : OperationSpec) : String :=
  let declared := (o.operationId.map Text.trim).filter (!·.isEmpty)
  let id := declared.getD (Name.synthesizeOperationId o.method o.path)
  if config.stripNamespace then Name.withoutNamespace id else id

/-- The method of an operation in capitals. -/
def methodOf (o : OperationSpec) : String :=
  Text.upperAscii (Text.trim o.method)

/-- The tag of an operation: the first one that it declares. -/
def tagOf (config : Config) (o : OperationSpec) : String :=
  o.tags.head?.getD config.defaultTag

namespace Scope

/-! ## Parameters -/

/-- The location of a parameter or body. -/
def argumentLocation (operationId name : String) : String :=
  operationId ++ "(" ++ name ++ ")"

/-- A parameter of an operation; those in its path are always required. -/
def parameter (scope : Scope) (operationId : String) (p : ParameterSpec) :
    Resolving ParameterDescriptor := do
  let type ← scope.schemaType p.schema (argumentLocation operationId p.name)
  pure
    { name := Name.fieldName p.name
      baseName := p.name
      type := type
      location := p.location
      required := p.required || p.location = .path }

/-- The type of page numbers and page sizes. -/
def pageType : TypeDescriptor :=
  .primitive (.integer .unsigned .bits16)

/-- Whether a parameter is the page number or the page size. -/
def isPaging (p : ParameterDescriptor) : Bool :=
  p.baseName = "per_page" || p.baseName = "page"

/-- Query parameters, with the type of page numbers and page sizes settled. -/
def settlePaging (ps : List ParameterDescriptor) : List ParameterDescriptor :=
  ps.map fun p => if isPaging p then { p with type := pageType } else p

/-! ## Bodies -/

/-- The name of the body of a request. -/
def bodyName : String :=
  "body"

/-- A body of any value, or of bytes, is taken as bytes. -/
def isBytesBody (t : TypeDescriptor) : Bool :=
  t.isDynamic || t.asPrimitive == some .bytes

/-- The body of a request, and whether it is taken as bytes. -/
def body (scope : Scope) (operationId : String) (b : RequestBodySpec) :
    Resolving (PropertyDescriptor × Bool) := do
  let resolved ← scope.schemaType b.schema (argumentLocation operationId bodyName)
  let isBytes := isBytesBody resolved
  let type := if isBytes then .primitive .bytes else resolved
  pure
    ({ name := bodyName
       baseName := bodyName
       type := type
       items := type.items
       required := b.required
       extensions := if type.isMap then Extensions.flagContainer [] type else [] }, isBytes)

/-- Whether a model has an origin. -/
def hasOrigin (scope : Scope) (key : String) (origin : Origin) : Bool :=
  (scope.registry.get? key).any (·.origin = origin)

/-- The name that the body of a request suggests for the model that it refers to. -/
def suggestBody (scope : Scope) (b : RequestBodySpec) (s : Suggestions) : Suggestions :=
  match b.schema.referenceName, operationNameHint b.metadata with
  | some key, some name =>
    if scope.hasOrigin key .requestBody && !scope.config.excludesBody key &&
        !scope.config.excludesBody (Name.camelize key) then (s.suggest key name).1
    else s
  | _, _ => s

/-! ## Responses -/

/-- The location of a response. -/
def responseLocation (operationId code : String) : String :=
  operationId ++ "[" ++ code ++ "]"

/-- A response of an operation. -/
def response (scope : Scope) (operationId code : String) (r : ResponseSpec) :
    Resolving ResponseDescriptor := do
  let type ← match r.schema with
    | some schema => do
      let type ← scope.schemaType schema (responseLocation operationId code)
      pure (some type)
    | none => pure none
  pure
    { code := code
      isDefault := Text.lowerAscii code = "default"
      isSuccess := isSuccessCode code
      type := type
      description := r.description }

/-- The name that a response suggests for the model that it refers to; a name from the
configuration is forced instead. -/
def suggestResponse (scope : Scope) (code : String) (r : ResponseSpec) (s : Suggestions) :
    Suggestions :=
  match r.schema.bind (·.referenceName) with
  | none => s
  | some key =>
    match (scope.registry.className? key).bind scope.config.responseName? with
    | some name => s.force key name
    | none =>
      match operationNameHint r.metadata with
      | some name =>
        if scope.hasOrigin key .inlineResponse then
          (s.suggest key (name ++ "Response" ++ Name.camelize code)).1
        else s
      | none => s

/-! ## Operations -/

/-- Whether metadata lists previews. -/
def hasPreviews (metadata : Metadata) : Bool :=
  (((Members.get? metadata "x-github").bind (Json.member? "previews")).bind Json.asArray?).any
    fun previews => !previews.isEmpty

/-- Whether a parameter is a text. -/
def isTextParam (p : ParameterDescriptor) : Bool :=
  p.type.asPrimitive == some .string || p.type.asPrimitive == some .uuid

/-- The facts of an operation for the renderer. -/
def operationExtensions (isBytes : Bool) (query : List ParameterDescriptor)
    (responses : List ResponseDescriptor) (metadata : Metadata) : Extensions :=
  let e : Extensions := Extensions.flagIf [] .bodyBytes isBytes
  let e := Extensions.flagIf e .perPage
    (query.any (·.baseName = "per_page") && query.any (·.baseName = "page"))
  let e := Extensions.flagIf e .optionalQueryParams (query.all fun p => !p.required)
  let e := Extensions.flagIf e .stringParams (query.any isTextParam)
  let e := Extensions.flagIf e .emptyDefault (!responses.any (·.isDefault))
  Extensions.flagIf e .previews (hasPreviews metadata)

/-- **The descriptor of an operation.**  Parameters come before the body, and the body before the
responses. -/
def operation (scope : Scope) (o : OperationSpec) : Resolving OperationDescriptor := do
  let operationId := operationIdOf scope.config o
  let parameters ← o.parameters.mapM (scope.parameter operationId)
  let body ← match o.requestBody with
    | some b => do
      let body ← scope.body operationId b
      pure (some body)
    | none => pure none
  let responses ← o.responses.mapM fun (code, r) => scope.response operationId code r
  let query := settlePaging (parameters.filter (·.location = .query))
  pure
    { operationId := operationId
      nickname := Name.methodName operationId
      path := o.path
      httpMethod := methodOf o
      tag := tagOf scope.config o
      body := body.map (·.1)
      pathParams := parameters.filter (·.location = .path)
      queryParams := query
      headerParams := parameters.filter (·.location = .header)
      responses := responses
      extensions := operationExtensions (body.any (·.2)) query responses o.metadata }

/-- The names that an operation suggests: its body's before those of its responses. -/
def suggestNames (scope : Scope) (s : Suggestions) (o : OperationSpec) : Suggestions :=
  let s := match o.requestBody with
    | some b => scope.suggestBody b s
    | none => s
  o.responses.foldl (fun s (code, r) => scope.suggestResponse code r s) s

/-- The descriptors of operations, in order. -/
def operations (scope : Scope) (os : List OperationSpec) : Resolving (List OperationDescriptor) :=
  os.mapM scope.operation

/-- The names that operations suggest, in order. -/
def suggestions (scope : Scope) (os : List OperationSpec) : Suggestions :=
  os.foldl scope.suggestNames .empty

end Scope

end ApiTypes
