import KSharp.LexError

/-! Failures, their diagnostics with labelled byte ranges of a file, and logs of them. -/

namespace KSharp

/-- Why a request on a source fails: an expression has a lexical error, a file cannot be used, or
anything else.
-/
inductive Failure where
  | lexical (error : LexError)
  | file (reason : Text)
  | other (reason : Text)
deriving DecidableEq, Repr

/-- The message of a failure. -/
def Failure.message : Failure → Text
  | .lexical error => error.message
  | .file reason => "ファイル操作エラー: ".toList ++ reason
  | .other reason => reason

/-- A remark on the bytes of a file from `start` up to `stop`. -/
structure Label where
  fileId : Nat
  start : Nat
  stop : Nat
  message : Text
deriving DecidableEq, Repr

/-- What is shown of a failure: a message, and labels on the places it is about. -/
structure Diagnostic where
  message : Text
  labels : List Label
deriving DecidableEq, Repr

/-- What a label says of the place of a lexical error. -/
def LexError.Cause.labelMessage : LexError.Cause → Text
  | .unexpectedCharacter _ => "マクロ式では使用できない文字".toList
  | .malformedNumber _ => "ここから始まる数値".toList
  | .unterminatedString => "文字列が閉じられていない".toList
  | .invalidIdentifier _ => "ここから始まる識別子".toList

/-- A failure in a file, in which the expression it is about starts at the byte `base`. -/
structure Report where
  failure : Failure
  fileId : Nat
  base : Nat
deriving DecidableEq, Repr

/-- The label of a lexical error: the bytes of the character at its offset, counted from the
start of the file.
-/
def Report.label (report : Report) (error : LexError) : Label :=
  let (start, stop) := error.byteSpan
  ⟨report.fileId, report.base + start, report.base + stop, error.cause.labelMessage⟩

/-- The diagnostic of a reported failure; only lexical errors have a label. -/
def Report.diagnostic (report : Report) : Diagnostic :=
  match report.failure with
  | .lexical error =>
    ⟨"字句解析エラー: ".toList ++ error.cause.message, [report.label error]⟩
  | failure => ⟨failure.message, []⟩

/-- The reports of a run, in the order in which they were made. -/
structure ErrorLog where
  reports : List Report
deriving DecidableEq, Repr

namespace ErrorLog

/-- The log without reports. -/
def empty : ErrorLog := ⟨[]⟩

/-- The log with one more report at its end. -/
def add (log : ErrorLog) (report : Report) : ErrorLog := ⟨log.reports ++ [report]⟩

/-- Whether anything was reported. -/
def hasErrors (log : ErrorLog) : Bool := !log.reports.isEmpty

/-- The number of reports. -/
def count (log : ErrorLog) : Nat := log.reports.length

end ErrorLog

end KSharp
