/-!
Reserved words. Every word has one spelling, and a name spelled like a reserved word is that word.
-/

namespace CppSyntax

inductive Keyword where
  | kwAlignas | kwAlignof | kwAuto | kwBool | kwBreak | kwCase | kwCatch | kwChar | kwChar8
  | kwChar16 | kwChar32 | kwClass | kwConst | kwConsteval | kwConstexpr | kwConstinit
  | kwConstCast | kwContinue | kwDecltype | kwDefault | kwDelete | kwDo | kwDouble
  | kwDynamicCast | kwElse | kwEnum | kwExplicit | kwExtern | kwFalse | kwFloat | kwFor
  | kwFriend | kwGoto | kwIf | kwInline | kwInt | kwLong | kwMutable | kwNamespace | kwNew
  | kwNoexcept | kwNullptr | kwOperator | kwPrivate | kwProtected | kwPublic | kwRegister
  | kwReinterpretCast | kwReturn | kwShort | kwSigned | kwSizeof | kwStatic | kwStaticAssert
  | kwStaticCast | kwStruct | kwSwitch | kwTemplate | kwThis | kwThreadLocal | kwThrow | kwTrue
  | kwTry | kwTypedef | kwTypeid | kwTypename | kwUnion | kwUnsigned | kwUsing | kwVirtual
  | kwVoid | kwVolatile | kwWchar | kwWhile
deriving DecidableEq, Repr

namespace Keyword

def spelling : Keyword → String
  | .kwAlignas => "alignas"
  | .kwAlignof => "alignof"
  | .kwAuto => "auto"
  | .kwBool => "bool"
  | .kwBreak => "break"
  | .kwCase => "case"
  | .kwCatch => "catch"
  | .kwChar => "char"
  | .kwChar8 => "char8_t"
  | .kwChar16 => "char16_t"
  | .kwChar32 => "char32_t"
  | .kwClass => "class"
  | .kwConst => "const"
  | .kwConsteval => "consteval"
  | .kwConstexpr => "constexpr"
  | .kwConstinit => "constinit"
  | .kwConstCast => "const_cast"
  | .kwContinue => "continue"
  | .kwDecltype => "decltype"
  | .kwDefault => "default"
  | .kwDelete => "delete"
  | .kwDo => "do"
  | .kwDouble => "double"
  | .kwDynamicCast => "dynamic_cast"
  | .kwElse => "else"
  | .kwEnum => "enum"
  | .kwExplicit => "explicit"
  | .kwExtern => "extern"
  | .kwFalse => "false"
  | .kwFloat => "float"
  | .kwFor => "for"
  | .kwFriend => "friend"
  | .kwGoto => "goto"
  | .kwIf => "if"
  | .kwInline => "inline"
  | .kwInt => "int"
  | .kwLong => "long"
  | .kwMutable => "mutable"
  | .kwNamespace => "namespace"
  | .kwNew => "new"
  | .kwNoexcept => "noexcept"
  | .kwNullptr => "nullptr"
  | .kwOperator => "operator"
  | .kwPrivate => "private"
  | .kwProtected => "protected"
  | .kwPublic => "public"
  | .kwRegister => "register"
  | .kwReinterpretCast => "reinterpret_cast"
  | .kwReturn => "return"
  | .kwShort => "short"
  | .kwSigned => "signed"
  | .kwSizeof => "sizeof"
  | .kwStatic => "static"
  | .kwStaticAssert => "static_assert"
  | .kwStaticCast => "static_cast"
  | .kwStruct => "struct"
  | .kwSwitch => "switch"
  | .kwTemplate => "template"
  | .kwThis => "this"
  | .kwThreadLocal => "thread_local"
  | .kwThrow => "throw"
  | .kwTrue => "true"
  | .kwTry => "try"
  | .kwTypedef => "typedef"
  | .kwTypeid => "typeid"
  | .kwTypename => "typename"
  | .kwUnion => "union"
  | .kwUnsigned => "unsigned"
  | .kwUsing => "using"
  | .kwVirtual => "virtual"
  | .kwVoid => "void"
  | .kwVolatile => "volatile"
  | .kwWchar => "wchar_t"
  | .kwWhile => "while"

def all : List Keyword :=
  [.kwAlignas, .kwAlignof, .kwAuto, .kwBool, .kwBreak, .kwCase, .kwCatch, .kwChar, .kwChar8,
    .kwChar16, .kwChar32, .kwClass, .kwConst, .kwConsteval, .kwConstexpr, .kwConstinit,
    .kwConstCast, .kwContinue, .kwDecltype, .kwDefault, .kwDelete, .kwDo, .kwDouble,
    .kwDynamicCast, .kwElse, .kwEnum, .kwExplicit, .kwExtern, .kwFalse, .kwFloat, .kwFor,
    .kwFriend, .kwGoto, .kwIf, .kwInline, .kwInt, .kwLong, .kwMutable, .kwNamespace, .kwNew,
    .kwNoexcept, .kwNullptr, .kwOperator, .kwPrivate, .kwProtected, .kwPublic, .kwRegister,
    .kwReinterpretCast, .kwReturn, .kwShort, .kwSigned, .kwSizeof, .kwStatic, .kwStaticAssert,
    .kwStaticCast, .kwStruct, .kwSwitch, .kwTemplate, .kwThis, .kwThreadLocal, .kwThrow, .kwTrue,
    .kwTry, .kwTypedef, .kwTypeid, .kwTypename, .kwUnion, .kwUnsigned, .kwUsing, .kwVirtual,
    .kwVoid, .kwVolatile, .kwWchar, .kwWhile]

/-- The reserved word with the given spelling. -/
def ofSpelling? (text : String) : Option Keyword :=
  all.find? fun word => word.spelling == text

/-- The words that make up the names of builtin types. -/
def isBuiltinType : Keyword → Bool
  | .kwBool | .kwChar | .kwChar8 | .kwChar16 | .kwChar32 | .kwDouble | .kwFloat | .kwInt
  | .kwLong | .kwShort | .kwSigned | .kwUnsigned | .kwVoid | .kwWchar => true
  | _ => false

/-- Reading a spelling gives back the word it spells. -/
theorem ofSpelling?_spelling (word : Keyword) : ofSpelling? word.spelling = some word := by
  cases word <;> decide

end Keyword

end CppSyntax
