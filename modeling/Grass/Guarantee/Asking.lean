import Grass.Model.Cluster
import Grass.Model.Format
import Mathlib.Algebra.Group.Nat.Defs
import Mathlib.Data.List.Forall2

namespace Grass

namespace Value

/-- The document says what the other one says: in any order, among other fields, without
the fields that are null, or as an array of the fields' values. -/
inductive Says : Value → Value → Prop where
  | refl (value : Value) : Says value value
  | object {fields wanted : List (String × Value)} (once : (fields.map Prod.fst).Nodup)
      (given : String → Value)
      (there : ∀ name value, (name, value) ∈ wanted →
        (name, given name) ∈ fields ∨ (value = .null ∧ name ∉ fields.map Prod.fst))
      (tells : ∀ name value, (name, value) ∈ wanted → (name, given name) ∈ fields →
        Says (given name) value) : Says (.object fields) (.object wanted)
  | array {items : List Value} {wanted : List (String × Value)}
      (tells : List.Forall₂ Says items (wanted.map Prod.snd)) : Says (.array items) (.object wanted)

theorem Says.text {document : Value} {text : String} (tells : document.Says (.string text)) :
    document = .string text := by
  cases tells
  rfl

theorem Says.usize {document : Value} {count : Nat} (tells : document.Says (.usize count)) :
    document = .usize count := by
  cases tells
  rfl

theorem Says.null {document : Value} (tells : document.Says .null) : document = .null := by
  cases tells
  rfl

/-- Something that is not null is said by something that is not. -/
theorem Says.present {document wanted : Value} (tells : document.Says wanted)
    (given : wanted ≠ .null) : document ≠ .null := by
  cases tells with
  | refl => exact given
  | object | array => simp

theorem field?_mem {fields : List (String × Value)} (once : (fields.map Prod.fst).Nodup)
    {name : String} {value : Value} (member : (name, value) ∈ fields) :
    field? fields name = some value := by
  unfold field?
  cases found : fields.reverse.find? fun field => field.1 == name with
  | none =>
    have other := List.find?_eq_none.mp found (name, value) (List.mem_reverse.mpr member)
    simp at other
  | some field =>
    have same : field.1 = name := by simpa using List.find?_some found
    have held := List.mem_reverse.mp (List.mem_of_find?_eq_some found)
    simp only [Option.map_some, Option.some.injEq]
    exact congrArg Prod.snd (List.inj_on_of_nodup_map once held member same)

theorem field?_absent {fields : List (String × Value)} {name : String}
    (absent : name ∉ fields.map Prod.fst) : field? fields name = none := by
  unfold field?
  rw [Option.map_eq_none_iff, List.find?_eq_none]
  intro field member same
  obtain rfl : field.1 = name := by simpa using same
  exact absent (List.mem_map_of_mem (List.mem_reverse.mp member))

/-- What a look-up finds for a wanted value. -/
def Found (wanted : Value) (found : Option Value) : Prop :=
  (∃ given, found = some given ∧ Says given wanted) ∨ (wanted = .null ∧ found = none)

/-- What an object, or an array in its place, holds for each of the wanted fields. -/
theorem Says.fields {document : Value} {wanted : List (String × Value)}
    (tells : document.Says (.object wanted)) (once : (wanted.map Prod.fst).Nodup) :
    (∃ fields, document = .object fields ∧ (fields.map Prod.fst).Nodup ∧
      ∀ field ∈ wanted, Found field.2 (field? fields field.1)) ∨
    ∃ items, document = .array items ∧ List.Forall₂ Says items (wanted.map Prod.snd) := by
  cases tells with
  | refl =>
    exact .inl ⟨wanted, rfl, once, fun field member =>
      .inl ⟨field.2, field?_mem once member, .refl field.2⟩⟩
  | @object fields _ once given there tells =>
    refine .inl ⟨fields, rfl, once, fun field member => ?_⟩
    obtain ⟨name, value⟩ := field
    rcases there name value member with held | ⟨null, absent⟩
    · exact .inl ⟨given name, field?_mem once held, tells name value member held⟩
    · exact .inr ⟨null, field?_absent absent⟩
  | @array items _ tells => exact .inr ⟨items, rfl, tells⟩

/-- The fields of a struct are found wherever they are. -/
theorem Says.structFields {document : Value} {wanted : List (String × Value)}
    (tells : document.Says (.object wanted)) (once : (wanted.map Prod.fst).Nodup)
    (solid : ∀ field ∈ wanted, field.2 ≠ .null) :
    ∃ found, structFields (wanted.map Prod.fst) document = some found ∧
      List.Forall₂ Says found (wanted.map Prod.snd) := by
  rcases tells.fields once with ⟨fields, rfl, -, looked⟩ | ⟨items, rfl, each⟩
  · simp only [Value.structFields]
    clear tells once
    induction wanted with
    | nil => exact ⟨[], rfl, .nil⟩
    | cons field rest ih =>
      obtain ⟨name, value⟩ := field
      obtain ⟨found, later, each⟩ := ih (fun field member =>
        solid field (List.mem_cons_of_mem _ member)) fun field member =>
          looked field (List.mem_cons_of_mem _ member)
      rcases looked _ List.mem_cons_self with ⟨given, held, tells⟩ | ⟨null, -⟩
      · exact ⟨given :: found, by simp [held, later], .cons tells each⟩
      · exact absurd null (solid _ List.mem_cons_self)
  · refine ⟨items, ?_, each⟩
    have size : items.length = (wanted.map Prod.fst).length := by
      rw [each.length_eq, List.length_map, List.length_map]
    simp [Value.structFields, size]

/-- A payload is read as one that says it, and none as none. -/
theorem Says.option {document : Value} {wanted : Option Value} (solid : wanted ≠ some .null)
    (tells : document.Says (.option wanted)) : Option.Rel Says document.asOption wanted := by
  cases wanted with
  | none =>
    obtain rfl := Says.null tells
    exact .none
  | some wanted =>
    have given := tells.present fun null => solid (congrArg some null)
    have same : document.asOption = some document := by
      cases document <;> first | rfl | exact absurd rfl given
    rw [same]
    exact .some tells

theorem Found.text {text : String} {found : Option Value} (there : Found (.string text) found) :
    found = some (.string text) := by
  rcases there with ⟨given, rfl, tells⟩ | ⟨null, -⟩
  · rw [tells.text]
  · cases null

theorem Found.option {wanted : Option Value} (solid : wanted ≠ some .null) {found : Option Value}
    (there : Found (.option wanted) found) : Option.Rel Says (found.bind asOption) wanted := by
  rcases there with ⟨given, rfl, tells⟩ | ⟨null, rfl⟩
  · exact tells.option solid
  · cases wanted with
    | none => exact .none
    | some wanted => exact absurd (congrArg some null) solid

theorem count_once {fields : List (String × Value)} (once : (fields.map Prod.fst).Nodup)
    (name : String) : fields.countP (fun field => field.1 == name) ≤ 1 := by
  have counted := List.nodup_iff_count_le_one.mp once name
  rwa [List.count, List.countP_map] at counted

theorem count_found {fields : List (String × Value)} {name : String} {value : Value}
    (found : field? fields name = some value) :
    0 < fields.countP fun field => field.1 == name := by
  obtain ⟨field, held, -⟩ := Option.map_eq_some_iff.mp found
  exact List.countP_pos_iff.mpr ⟨field, List.mem_reverse.mp (List.mem_of_find?_eq_some held),
    by simpa using List.find?_some held⟩

end Value

theorem oneString_tells {name text : String} {document : Value}
    (tells : document.Says (.object [(name, .string text)])) :
    oneString name document = some text := by
  obtain ⟨found, read, each⟩ := tells.structFields (by simp) (by simp)
  cases each with
  | cons given rest =>
    cases rest
    obtain rfl := given.text
    simp only [List.map_cons, List.map_nil] at read
    simp [oneString, read, Value.asString]

theorem asUsize_fits {count : Nat} (fits : count < 2 ^ 64) :
    (Value.usize count).asUsize = some count := by
  simp only [Value.usize, Value.asUsize]
  rw [if_pos ⟨by omega, by exact_mod_cast fits⟩]
  simp

theorem oneUsize_tells {name : String} {count : Nat} {document : Value} (fits : count < 2 ^ 64)
    (tells : document.Says (.object [(name, .usize count)])) :
    oneUsize name document = some count := by
  obtain ⟨found, read, each⟩ := tells.structFields (by simp) (by simp [Value.usize])
  cases each with
  | cons given rest =>
    cases rest
    obtain rfl := given.usize
    simp only [List.map_cons, List.map_nil] at read
    simp [oneUsize, read, asUsize_fits fits]

theorem CompileRequest.fromValue_tells {request : CompileRequest} {document : Value}
    (fits : request.taskIndex < 2 ^ 64) (tells : document.Says request.document) :
    fromValue document = some request := by
  obtain ⟨found, read, each⟩ := tells.structFields (by simp) (by simp [Value.usize])
  cases each with
  | cons code rest =>
    cases rest with
    | cons index rest =>
      cases rest
      obtain rfl := code.text
      obtain rfl := index.usize
      simp only [List.map_cons, List.map_nil] at read
      simp [fromValue, read, asUsize_fits fits, Value.asString]

theorem Request.fromValue_tells {request : Request} {document : Value}
    (solid : request.d ≠ some .null) (tells : document.Says request.document) :
    ∃ d, fromValue document = some ⟨d, request.op⟩ ∧ Option.Rel Value.Says d request.d := by
  rcases tells.fields (by simp) with ⟨fields, rfl, -, looked⟩ | ⟨items, rfl, each⟩
  · have op := (looked ("op", .string request.op.name) (by simp)).text
    have payload := (looked ("d", .option request.d) (by simp)).option solid
    exact ⟨_, by simp [fromValue, op, Value.asMapVariant], payload⟩
  · cases each with
    | @cons d _ _ _ payload rest =>
      cases rest with
      | cons op rest =>
        cases rest
        obtain rfl := op.text
        exact ⟨d.asOption, by simp [fromValue, Value.asMapVariant], payload.option solid⟩

theorem DefaultModel.fromStr_tells {model : DefaultModel} {document : Value}
    (solid : model.d ≠ some .null) (tells : document.Says model.document) :
    ∃ d, fromStr document = some ⟨model.op, d⟩ ∧ Option.Rel Value.Says d model.d := by
  rcases tells.fields (by simp) with ⟨fields, rfl, once, looked⟩ | ⟨items, rfl, each⟩
  · have op := (looked ("op", .string model.op.name) (by simp)).text
    have payload := (looked ("d", .option model.d) (by simp)).option solid
    have single : fields.countP (fun field => field.1 == "op") = 1 ∧
        fields.countP (fun field => field.1 == "d") ≤ 1 :=
      ⟨le_antisymm (Value.count_once once "op") (Value.count_found op), Value.count_once once "d"⟩
    exact ⟨_, by simp [fromStr, single, op, Value.asVariant], payload⟩
  · cases each with
    | cons op rest =>
      cases rest with
      | @cons d _ _ _ payload rest =>
        cases rest
        obtain rfl := op.text
        exact ⟨d.asOption, by simp [fromStr, Value.asVariant], payload.option solid⟩

/-- What a client may ask, with the data of the request. -/
inductive Ask where
  | join (data : JoinRequest)
  | leave
  | start (data : StartRequest)
  | task (data : TaskRequest)
  | compile (data : CompileRequest)
  | ping
  | identify (data : IdentifyRequest)
  | create (data : CreateRequest)
  | exists (data : ExistsRequest)

namespace Ask

def request : Ask → Request
  | .join data => ⟨some data.document, .join⟩
  | .leave => ⟨none, .leave⟩
  | .start data => ⟨some data.document, .start⟩
  | .task data => ⟨some data.document, .task⟩
  | .compile data => ⟨some data.document, .compile⟩
  | .ping => ⟨none, .ping⟩
  | .identify data => ⟨some data.document, .identify⟩
  | .create data => ⟨some data.document, .create⟩
  | .exists data => ⟨some data.document, .exists⟩

/-- The text of a request. -/
def document (ask : Ask) : Value := DefaultModel.document ⟨.request, some ask.request.document⟩

/-- The numbers are of the type `usize`. -/
def Fits : Ask → Prop
  | .start data => data.taskCount < 2 ^ 64
  | .task data => data.taskIndex < 2 ^ 64
  | .compile data => data.taskIndex < 2 ^ 64
  | _ => True

theorem request_solid (ask : Ask) : ask.request.d ≠ some .null := by
  cases ask <;> simp [request, JoinRequest.document, StartRequest.document, TaskRequest.document,
    CompileRequest.document, IdentifyRequest.document, CreateRequest.document,
    ExistsRequest.document]

section Reads

-- data that is read as the same request is handled the same
variable (ctx : Ctx) (world : World) {one other : Value}

theorem start_reads (same : StartRequest.fromValue one = StartRequest.fromValue other) :
    ctx.handleStart world (some one) = ctx.handleStart world (some other) := by
  simp only [Ctx.handleStart, Ctx.startHosted, same]

theorem task_reads (same : TaskRequest.fromValue one = TaskRequest.fromValue other) :
    ctx.handleTask world (some one) = ctx.handleTask world (some other) := by
  simp only [Ctx.handleTask, same]

theorem compile_reads (same : CompileRequest.fromValue one = CompileRequest.fromValue other) :
    ctx.handleCompile world (some one) = ctx.handleCompile world (some other) := by
  simp only [Ctx.handleCompile, same]

end Reads

/-- Data that says the request's is read as the same. -/
theorem handles (ask : Ask) (fits : ask.Fits) {d : Option Value}
    (tells : Option.Rel Value.Says d ask.request.d) (ctx : Ctx) (world : World) :
    ctx.handleRequest world ⟨d, ask.request.op⟩ = ctx.handleRequest world ask.request := by
  cases ask with
  | leave | ping => rfl
  | join data =>
    cases tells with
    | some given =>
      have read : ∀ {document : Value}, document.Says data.document →
          JoinRequest.fromValue document = some data := fun tells => by
        simp [JoinRequest.fromValue, oneString_tells tells]
      simp only [request, Ctx.handleRequest, Ctx.handleJoin, read given, read (.refl _)]
  | start data =>
    cases tells with
    | some given =>
      have read : ∀ {document : Value}, document.Says data.document →
          StartRequest.fromValue document = some data := fun tells => by
        simp [StartRequest.fromValue, oneUsize_tells fits tells]
      have told := read (.refl data.document)
      have same := start_reads ctx world ((read given).trans told.symm)
      exact same
  | task data =>
    cases tells with
    | some given =>
      have read : ∀ {document : Value}, document.Says data.document →
          TaskRequest.fromValue document = some data := fun tells => by
        simp [TaskRequest.fromValue, oneUsize_tells fits tells]
      have told := read (.refl data.document)
      have same := task_reads ctx world ((read given).trans told.symm)
      exact same
  | compile data =>
    cases tells with
    | some given =>
      have read := CompileRequest.fromValue_tells fits given
      have told := CompileRequest.fromValue_tells fits (.refl data.document)
      have same := compile_reads ctx world (read.trans told.symm)
      exact same
  | identify data =>
    cases tells with
    | some given =>
      have read : ∀ {document : Value}, document.Says data.document →
          IdentifyRequest.fromValue document = some data := fun tells => by
        simp [IdentifyRequest.fromValue, oneString_tells tells]
      simp only [request, Ctx.handleRequest, Ctx.handleIdentify, read given, read (.refl _)]
  | create data =>
    cases tells with
    | some given =>
      have read : ∀ {document : Value}, document.Says data.document →
          CreateRequest.fromValue document = some data := fun tells => by
        obtain ⟨found, read, -⟩ := tells.structFields List.nodup_nil (by simp)
        simp only [List.map_nil] at read
        simp [CreateRequest.fromValue, read]
      simp only [request, Ctx.handleRequest, Ctx.handleCreate, read given, read (.refl _)]
  | «exists» data =>
    cases tells with
    | some given =>
      have read : ∀ {document : Value}, document.Says data.document →
          ExistsRequest.fromValue document = some data := fun tells => by
        simp [ExistsRequest.fromValue, oneString_tells tells]
      simp only [request, Ctx.handleRequest, Ctx.handleExists, read given, read (.refl _)]

end Ask

/-- A text that says a request is handled as the request it says, in whichever layout. -/
theorem asks_handled (ask : Ask) (fits : ask.Fits) (text : Value) (tells : text.Says ask.document) :
    ∃ model, (Frame.text (some text)).model? = some model ∧
      ∀ (ctx : Ctx) (world : World), ctx.model = model →
        ctx.receive world = ctx.handleRequest world ask.request := by
  obtain ⟨d, decoded, payload⟩ := DefaultModel.fromStr_tells (by simp [Request.document]) tells
  refine ⟨_, decoded, ?_⟩
  cases payload with
  | some given =>
    obtain ⟨data, read, each⟩ := Request.fromValue_tells ask.request_solid given
    rintro ctx world model
    simp only [Ctx.receive, model, read]
    exact ask.handles fits each ctx world

/-- A compile request with a key nobody knows, its data as an array. -/
def compileText : Value :=
  .object [("version", .integer 2),
    ("d", .array [.object [("task_index", .usize 0), ("code", .string "print(1)")],
      .string "Compile"]),
    ("op", .string "Request")]

theorem asks_handled_compile :
    ∃ model, (Frame.text (some compileText)).model? = some model ∧
      ∀ (ctx : Ctx) (world : World), ctx.model = model →
        ctx.receive world = ctx.handleRequest world (Ask.compile ⟨"print(1)", 0⟩).request := by
  refine asks_handled (.compile ⟨"print(1)", 0⟩) (by simp [Ask.Fits]) compileText ?_
  have data : Value.Says (.object [("task_index", .usize 0), ("code", .string "print(1)")])
      (CompileRequest.document ⟨"print(1)", 0⟩) := by
    refine .object (by decide) (fun name => if name = "code" then .string "print(1)" else .usize 0)
      ?_ ?_
    · intro name value member
      simp at member
      rcases member with ⟨rfl, rfl⟩ | ⟨rfl, rfl⟩ <;> simp
    · rintro name value member -
      simp at member
      rcases member with ⟨rfl, rfl⟩ | ⟨rfl, rfl⟩ <;> simp [Value.Says.refl]
  refine .object (by decide) (fun name => if name = "op" then .string "Request" else
    .array [.object [("task_index", .usize 0), ("code", .string "print(1)")], .string "Compile"])
      ?_ ?_
  · intro name value member
    simp [OpCode.name] at member
    rcases member with ⟨rfl, rfl⟩ | ⟨rfl, rfl⟩ <;> simp
  · rintro name value member -
    simp [OpCode.name] at member
    rcases member with ⟨rfl, rfl⟩ | ⟨rfl, rfl⟩
    · exact .refl _
    · exact .array (.cons data (.cons (.refl _) .nil))

end Grass
