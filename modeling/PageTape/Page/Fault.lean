import PageTape.Css.Reader
import PageTape.Checked
import PageTape.Text.Quoted

/-!
What can go wrong on a page and while recording it.
-/

namespace PageTape

/-- A step callback, by what it is told. -/
inductive Callback where
  | added | updated
  deriving DecidableEq, Repr, Inhabited

/-- Why an operation failed. -/
inductive Fault where
  | elementNotFound (selector : String)
  | selector (fault : Css.SelectorFault)
  | notATree
  | emptyFragment (html : String)
  | selfInsertion
  | bodyMissing
  | networkFailed (url : String)
  | sendBeforeOpen
  | tooManyArguments
  | noEventLoop
  | callbackFailed (callback : Callback)
  | invalidStep (issues : List Issue)
  deriving DecidableEq, Repr, Inhabited

namespace Fault

/-- The message of a fault, for those that have one. -/
def message? : Fault → Option String
  | elementNotFound wanted => some s!"要素が見つかりません: {wanted}"
  | notATree => some "Document または bs4 の Tag が必要です: NoneType"
  | emptyFragment html =>
    some s!"HTML 断片に要素が含まれていません: {Text.quoted html}"
  | selfInsertion => some "Cannot insert a tag into itself."
  | networkFailed url => some s!"Failed to fetch: {url}"
  | sendBeforeOpen => some "XMLHttpRequest は open() 後に send() してください"
  | noEventLoop =>
    some ("AsyncioClock は実行中のイベントループが必要です。"
      ++ "同期コードから記録する場合は loop を渡すか VirtualClock を使ってください")
  | callbackFailed .added => some "added callback"
  | callbackFailed .updated => some "updated callback"
  | selector _ | bodyMissing | tooManyArguments | invalidStep _ => none

end Fault

end PageTape
