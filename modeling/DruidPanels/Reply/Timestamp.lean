import DruidPanels.Decimal.Shortest
import DruidPanels.Reply.Error
import DruidPanels.Text.Blank
import DruidPanels.Time.Notation
import DruidPanels.Word

/-! # Times in replies

The broker gives times as numbers of milliseconds or as text. Times are counted in
sixty-four bits with a sign; numbers beyond that are held to its ends. Bucket
times are cut to whole seconds. -/

namespace DruidPanels

namespace Timestamp

def ofNumber : Number → Int
  | .int n => Word.saturate n
  | .float x => Word.saturate (Decimal.Binary.ofFloat x).truncate

/-- The milliseconds that a value stands for, if it is a time. -/
def millis? : Json → Option Int
  | .num n => some (ofNumber n)
  | .str s => (Instant.parse? (Text.trim s)).map Instant.millis
  | _ => none

/-- Cuts milliseconds to the second that they lie in. A second that starts before the
least count cannot be computed. -/
def cutToSecond (ms : Int) : Except Fault Int :=
  let second := ms / 1000 * 1000
  if Word.fits second then .ok second else .error .abort

/-- The time of a bucket, to the second. -/
def ofBucket (value : Json) : Except Fault Int :=
  match millis? value with
  | some ms => cutToSecond ms
  | none => .error (ReplyError.unreadableTimestamp value).fault

end Timestamp

end DruidPanels
