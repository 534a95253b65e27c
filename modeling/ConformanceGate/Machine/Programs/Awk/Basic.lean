import ConformanceGate.Machine.Fraction
import ConformanceGate.Machine.Octets
import ConformanceGate.Machine.Regular

/-!
# Programs over records

A program is a list of rules. Each record of the input is held against all rules, and the actions of
those that apply are carried out; some rules apply before all input or after it.
-/

namespace ConformanceGate.Machine.Programs.Awk

inductive Calculation
  | sum
  | difference
  | product
  | quotient
  | remainder
  | power
deriving DecidableEq

/-- How two values are held against each other. -/
inductive Order
  | less
  | atMost
  | equal
  | unequal
  | atLeast
  | more
deriving DecidableEq

mutual

inductive Expr
  | number (value : Fraction)
  | text (value : Octets)
  /-- Whether the record matches, unless a regular expression is asked for. -/
  | regular (e : Regular)
  | place (p : Place)
  | assign (p : Place) (value : Expr)
  | update (how : Calculation) (p : Place) (value : Expr)
  /-- Adds or takes away one; the value is that from before or that from after. -/
  | count (p : Place) (up before : Bool)
  | calculate (how : Calculation) (first second : Expr)
  | join (first second : Expr)
  | compare (order : Order) (first second : Expr)
  | fits (negated : Bool) (text expression : Expr)
  | both (first second : Expr)
  | either (first second : Expr)
  | no (e : Expr)
  | negative (e : Expr)
  | choose (condition yes no : Expr)
  | member (keys : List Expr) (array : String)
  | call (name : String) (args : List Expr)
  /-- Reads one more record, from a file or from the input. -/
  | getLine (into : Option Place) (path : Option Expr)

inductive Place
  | named (name : String)
  | field (number : Expr)
  | element (array : String) (keys : List Expr)

end

/-- Where something is printed to. -/
inductive Target
  | output
  | file (path : Expr) (append : Bool)

inductive Statement
  | block (body : List Statement)
  | expression (e : Expr)
  | print (args : List Expr) (target : Target)
  | printFormat (args : List Expr) (target : Target)
  | branch (condition : Expr) (yes no : Statement)
  /-- Repeats the body and the step while the condition holds, which is tested before the body for
  the first time or only after it. -/
  | loop (testFirst : Bool) (condition : Expr) (body step : Statement)
  /-- The body for each key of an array. -/
  | each (name array : String) (body : Statement)
  | leaveLoop
  | nextRound
  | nextRecord
  | nextFile
  | quit (status : Option Expr)
  /-- Removes an element of an array, or all if there are no keys. -/
  | delete (array : String) (keys : List Expr)

inductive Trigger
  | start
  | finish
  | always
  | when (condition : Expr)
  /-- From a record to which the first condition applies up to one to which the second does. -/
  | span (first last : Expr)

structure Rule where
  trigger : Trigger
  action : Statement

end ConformanceGate.Machine.Programs.Awk
