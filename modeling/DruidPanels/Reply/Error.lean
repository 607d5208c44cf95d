import DruidPanels.Fault
import DruidPanels.Json.Text

/-! # Replies that cannot be used

The ways in which a broker's reply can fail to be what its query asked for, and
their wording. -/

namespace DruidPanels

/-- Why a reply cannot be understood. -/
inductive ReplyError where
  | notArray (queryType : String)
  | unreadableTimestamp (value : Json)
  | unreadableSqlTimestamp
  | notListing (detail : String)

namespace ReplyError

def message : ReplyError → String
  | .notArray queryType => queryType ++ " response is not an array"
  | .unreadableTimestamp value => "unreadable timestamp " ++ value.text
  | .unreadableSqlTimestamp => "unreadable sql timestamp"
  | .notListing detail => "datasource list: " ++ detail

/-- An error makes the reply unusable. -/
def fault (e : ReplyError) : Fault := .error (.unexpectedResponse e.message)

end ReplyError

end DruidPanels
