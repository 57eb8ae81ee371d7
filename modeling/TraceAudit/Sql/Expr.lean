/-!
# SQL expressions

The part of an expression that decides whether a condition holds for every row: literals, columns,
the logical operators, equality, and parentheses. All other forms are one constructor.
-/

namespace TraceAudit.Sql

/-- How a text literal is written. -/
inductive Quoting where
  /-- Between single quotes. -/
  | single
  /-- Between double quotes. -/
  | double
  /-- In the national character set. -/
  | national
  /-- With backslash escapes. -/
  | escaped
  /-- With code points for characters. -/
  | unicode
  /-- As bytes. -/
  | bytes
  /-- Without any escapes. -/
  | raw
  /-- As hexadecimal digits. -/
  | hex
  /-- Between dollar signs, perhaps around a tag. -/
  | dollar
  deriving DecidableEq, Repr

/-- A literal, or a placeholder for one. -/
inductive Value where
  /-- The digits, point and exponent of a number, as written. -/
  | number (text : String)
  | text (quoting : Quoting) (content : String)
  | bool (value : Bool)
  | null
  | placeholder (name : String)
  deriving DecidableEq, Repr

inductive BinaryOp where
  | and
  | or
  | equal
  | notEqual
  | other
  deriving DecidableEq, Repr

inductive UnaryOp where
  | not
  | plus
  | minus
  deriving DecidableEq, Repr

inductive Expr where
  | value (v : Value)
  /-- A column by its name, qualified or not. -/
  | column (path : List String)
  /-- An expression in parentheses. -/
  | nested (e : Expr)
  | binary (op : BinaryOp) (left right : Expr)
  | unary (op : UnaryOp) (e : Expr)
  /-- A call, a subquery, a list test, a pattern match, or any other form. -/
  | other
  deriving DecidableEq, Repr

end TraceAudit.Sql
