import ChatFlow.Workflow.Definition

/-!
# The workflow that is used unless another one is configured

A customer books a ticket, asks about an order, or is handed over to an agent.
-/

namespace ChatFlow.Workflow.Bundled

def node (id : Int) (kind : String) (data : List (String × Json)) (children : List Json) : Json :=
  .obj [("id", .int id), ("type", .str kind), ("data", .obj data), ("childs", .arr children)]

def kept (variableName : String) : String × Json :=
  ("saveResponse", .obj [("hasVariable", .bool true), ("variable", .str variableName)])

def sending (text : String) : List (String × Json) :=
  [("type", .str "send_message"),
    ("payload", .arr [.obj [("message", .obj [("text", .str text)])]])]

/-- The payload of a branch for one of the choices of the first question. -/
def chosen (option : String) : List (String × Json) :=
  [("conditions", .arr [.obj [("hasVariable", .bool true), ("variable", .str "main_choice"),
    ("filter_operator", .str "equal_to"), ("values", .str option)]])]

def row (id title : String) : Json := .obj [("id", .str id), ("title", .str title)]

def events : Json := .obj [
  ("type", .str "list"),
  ("body", .obj [("text", .str "اختر الفعالية التي تود حضورها")]),
  ("action", .obj [
    ("button", .str "الفعاليات"),
    ("sections", .arr [.obj [
      ("title", .str "الفعاليات القادمة"),
      ("rows", .arr [row "evt_1" "حفل الرياض", row "evt_2" "مباراة الديربي",
        row "evt_3" "مهرجان جدة"])]])])]

/-- The branch that books a ticket: pick an event, give an address, be confirmed. -/
def booking : Json :=
  node 21 "IfCondition" (chosen "حجز تذكرة") [
    node 30 "QuestionStep" [
      ("question", .obj [("type", .str "whatsapp_list"), ("text", .str "اختر الفعالية"),
        ("interactive", events)]),
      kept "event"] [
      node 31 "ValidAnswer" [] [
        node 32 "QuestionStep" [
          ("question", .obj [("type", .str "text"),
            ("text", .str "فضلاً اكتب بريدك الإلكتروني لإرسال التذكرة")]),
          ("saveResponse", .obj [("hasField", .bool true), ("field", .str "email")])] [
          node 33 "ValidAnswer" [] [
            node 34 "ActionStep" (sending ("تم استلام طلبك لـ \x7b\x7bevent\x7d\x7d ✅ " ++
              "سنرسل التفاصيل إلى \x7b\x7bcontact.email\x7d\x7d")) []]]],
      node 35 "InvalidAnswer" [] [
        node 36 "JumpStep" [("stepId", .int 30), ("maxJumps", .int 3)] []]]]

def lookupOrder : List (String × Json) := [
  ("url", .str "https://api.goldenticket.example/orders/status"),
  ("body", .str ("\x7b\"order_id\": \"\x7b\x7border_id\x7d\x7d\", " ++
    "\"phone\": \"\x7b\x7bcontact.phone_number\x7d\x7d\"\x7d")),
  ("headers", .arr [.obj [
    ("key", .str "Content-Type"), ("value", .str "application/json")]]),
  kept "order_raw",
  ("responseMap", .arr [.obj [("variable", .str "order_status"), ("key", .str "status")]])]

/-- The branch that looks up an order at an endpoint. -/
def orderStatus : Json :=
  node 22 "IfCondition" (chosen "استعلام عن طلب") [
    node 40 "QuestionStep" [
      ("question", .obj [("type", .str "text"), ("text", .str "اكتب رقم الطلب")]),
      kept "order_id"] [
      node 41 "ValidAnswer" [] [
        node 42 "HttpRequestStep" lookupOrder [
          node 43 "ValidAnswer" [] [
            node 44 "ActionStep" (sending
              "حالة الطلب \x7b\x7border_id\x7d\x7d: \x7b\x7border_status\x7d\x7d") []],
          node 45 "InvalidAnswer" [] [
            node 46 "ActionStep" (sending
              "تعذر الاستعلام عن الطلب حالياً، سيتواصل معك أحد موظفينا.") [
              node 47 "AssignToStep" [("workspace", .str "support")] [
                node 48 "ValidAssignTo" [] [
                  node 49 "ActionStep" [
                    ("type", .str "add_comment"),
                    ("comment", .str "Order lookup failed for \x7b\x7border_id\x7d\x7d")]
                    []]]]]]]]]

/-- The branch that hands the conversation over to an agent. -/
def agentHandover : Json :=
  node 23 "ElseCondition" [] [
    node 50 "AssignToStep" [("workspace", .str "customer_service")] [
      node 51 "ValidAssignTo" [] [
        node 52 "ActionStep" (sending
          "تم تحويلك إلى خدمة العملاء، سيتم الرد عليك قريباً 🙏") []]]]

def tree : Json :=
  node 1 "Trigger" [("channel", .str "whatsapp")] [
    node 2 "DateTimeStep" [("schedule", .str "24/7")] [
      node 3 "ValidDateTime" [] [
        node 10 "QuestionStep" [
          ("question", .obj [
            ("type", .str "multiple"),
            ("text", .str ("أهلاً \x7b\x7bcontact.name\x7d\x7d 👋 " ++
              "مرحباً بك في Golden Ticket. كيف نقدر نخدمك؟")),
            ("options", .arr [.str "حجز تذكرة", .str "استعلام عن طلب", .str "خدمة العملاء"])]),
          kept "main_choice"] [
          node 11 "ValidAnswer" [] [
            node 20 "BranchStep" [] [booking, orderStatus, agentHandover]]]]]]

def name : String := "golden-ticket-chatbot"

def definition : Json := .obj [("name", .str name), ("tree", tree)]

end ChatFlow.Workflow.Bundled

namespace ChatFlow.Workflow

def bundled : Except Fault (Workflow × List Log.Entry) :=
  ofDefinition Bundled.definition true (some Bundled.name)

end ChatFlow.Workflow
