import FraudScreen.Expr.Token

/-!
# Operator trees

Tokens become a tree by inserting them from left to right. A new node goes down the right edge of the
tree as long as it binds tighter than what it meets; then it either becomes a further operand or takes
the place of the last operand and that operand as its own. Parentheses and the separators `,` and `;`
are kept on a stack of groups still open.
-/
namespace FraudScreen.Expr

/-- What a node of the tree does. -/
inductive Op where
  /-- A parenthesised group, and the whole expression. -/
  | group
  | add | sub | neg | mul | div | rem | pow
  | eq | neq | gt | lt | geq | leq
  | and | or | not
  | assign
  /-- An assignment combined with an operation. -/
  | update
  | tuple | chain
  | const (v : Value)
  | read (name : String)
  | write (name : String)
  | call (name : String)

namespace Op

/-- How tightly an operation binds its operands. -/
def precedence : Op → Nat
  | group | const _ | read _ | write _ => 200
  | call _ => 190
  | pow => 120
  | neg | not => 110
  | mul | div | rem => 100
  | add | sub => 95
  | eq | neq | gt | lt | geq | leq => 80
  | and => 75
  | or => 70
  | assign | update => 50
  | tuple => 40
  | chain => 0

def groupsLeft : Op → Bool
  | assign | call _ => false
  | _ => true

/-- The most operands an operation takes; `none` for the sequences, which take any number. -/
def maxOperands : Op → Option Nat
  | tuple | chain => none
  | group | neg | not | call _ => some 1
  | const _ | read _ | write _ => some 0
  | _ => some 2

def isUnary : Op → Bool
  | neg | not | call _ => true
  | _ => false

def isLeaf (op : Op) : Bool := op.maxOperands == some 0

def isSequence : Op → Bool
  | tuple | chain => true
  | _ => false

def isGroup : Op → Bool
  | group => true
  | _ => false

/-- Whether a new node may go below this one. -/
def admits (op new : Op) : Bool :=
  op.precedence < new.precedence || new.isUnary ||
    (op.precedence == new.precedence && !op.groupsLeft && !new.groupsLeft)

end Op

/-- An operation with its operands. -/
inductive Node where
  | mk (op : Op) (operands : List Node)

namespace Node

def op : Node → Op
  | mk o _ => o

def operands : Node → List Node
  | mk _ ns => ns

def leaf (o : Op) : Node := mk o []

/-- A group without content. -/
def emptyGroup : Node := mk .group []

/-- A further operand at the end. -/
def push (parent child : Node) : Node := mk parent.op (parent.operands ++ [child])

/-- Puts `new` in the place of the last operand and that operand below it. Two groups cannot be put
together in this way. -/
def displace (parent : Op) (siblings : Bool) (last new : Node) : Except SyntaxError Node :=
  if new.op.isLeaf then .error .operandAfterOperand
  else if parent.isGroup && (siblings || new.op.isGroup) then .error .groupBesideOperand
  else if new.op.isGroup && (!new.operands.isEmpty || last.op.isGroup) then
    .error .groupBesideOperand
  else .ok (new.push last)

mutual

/-- Inserts a node at the right edge of a tree. `top` says that the tree is a whole group, which takes
any node. -/
def insert (new : Node) (top : Bool) : Node → Except SyntaxError Node
  | mk op operands =>
    if op.admits new.op || top then
      if op.isLeaf then .error .operandAfterOperand
      else if op.maxOperands == some operands.length then
        (insertLast new op false operands).map (mk op)
      else .ok (mk op (operands ++ [new]))
    else .error .precedence

/-- Inserts a node into or above the last of the operands of `parent`. -/
def insertLast (new : Node) (parent : Op) (siblings : Bool) :
    List Node → Except SyntaxError (List Node)
  | [] => .error .operandAfterOperand
  | [last] =>
    if last.op.admits new.op then (insert new false last).map ([·])
    else (displace parent siblings last new).map ([·])
  | first :: second :: rest => (insertLast new parent true (second :: rest)).map (first :: ·)

end

end Node

/-! ## Groups and sequences -/

/-- Both operations are the same kind of sequence. -/
def Op.sameSequence : Op → Op → Bool
  | .tuple, .tuple | .chain, .chain => true
  | _, _ => false

/-- Folds into one node all open groups above `goal` that bind tighter than it. -/
def foldTighter (goal : Op) (top : Node) : List Node → Except SyntaxError (Node × List Node)
  | [] => .error .unmatchedClose
  | next :: below =>
    if goal.precedence < next.op.precedence then foldTighter goal (next.push top) below
    else .ok (top, next :: below)

/-- Ends all sequences down to the group they stand in. -/
def endSequences (top : Node) (below : List Node) : Except SyntaxError (List Node) :=
  if top.op.isGroup then
    if 1 < top.operands.length then .error .groupBesideOperand else .ok (top :: below)
  else match below with
    | [] => .error .unmatchedClose
    | next :: rest => endSequences (next.push top) rest

/-- Begins a new member of a sequence. -/
def addSeparator (op : Op) (top : Node) (below : List Node) : Except SyntaxError (List Node) :=
  if top.op.sameSequence op then .ok (top.push .emptyGroup :: below)
  else if top.op.isGroup then .ok (.mk op [top, .emptyGroup] :: .emptyGroup :: below)
  else if top.op.precedence < op.precedence then
    match top.operands.getLast? with
    | some last =>
      .ok (.mk op [last, .emptyGroup] :: .mk top.op top.operands.dropLast :: below)
    | none => .error .unmatchedClose
  else (foldTighter op top below).map fun (folded, rest) => .mk op [folded] :: rest

/-- Adds a node to the innermost open group, or to the last member of the sequence in it. -/
def addNode (new : Node) : List Node → Except SyntaxError (List Node)
  | [] => .error .unmatchedClose
  | top :: below =>
    if new.op.isSequence then addSeparator new.op top below
    else if top.op.isSequence then
      match top.operands.getLast? with
      | some last =>
        (Node.insert new true last).map fun grown => .mk top.op (top.operands.dropLast ++ [grown]) :: below
      | none => .error .unmatchedClose
    else (Node.insert new true top).map (· :: below)

/-! ## From tokens -/

/-- A token that can end an operand. -/
def Token.endsOperand : Token → Bool
  | .sign .closing | .name _ | .const _ => true
  | _ => false

/-- A token that can begin the argument of a call. -/
def Token.beginsOperand : Token → Bool
  | .sign .opening | .name _ | .const _ => true
  | _ => false

def Sign.isAssignment : Sign → Bool
  | .assign | .plusAssign | .minusAssign | .starAssign | .slashAssign | .percentAssign | .hatAssign
  | .andAssign | .orAssign => true
  | _ => false

/-- What a name does depends on the token after it. -/
def opOfName (name : String) : Option Token → Op
  | some (.sign s) =>
    if s.isAssignment then .write name
    else if (Token.sign s).beginsOperand then .call name
    else .read name
  | some _ => .call name
  | none => .read name

/-- The operation of a sign other than a parenthesis. A minus is binary only after an operand. -/
def opOfSign (afterOperand : Bool) : Sign → Op
  | .plus => .add
  | .minus => if afterOperand then .sub else .neg
  | .star => .mul
  | .slash => .div
  | .percent => .rem
  | .hat => .pow
  | .eq => .eq
  | .neq => .neq
  | .gt => .gt
  | .lt => .lt
  | .geq => .geq
  | .leq => .leq
  | .and => .and
  | .or => .or
  | .not => .not
  | .assign => .assign
  | .comma => .tuple
  | .semicolon => .chain
  | .opening | .closing => .group
  | _ => .update

/-- Closes the innermost group and adds it to the one around it. -/
def closeGroup : List Node → Except SyntaxError (List Node)
  | top :: next :: below => do
    match ← endSequences top (next :: below) with
    | group :: rest => addNode group rest
    | [] => .error .unmatchedClose
  | _ => .error .unmatchedClose

/-- Adds one token, given the one after it. -/
def addToken (afterOperand : Bool) (t : Token) (next : Option Token) (stack : List Node) :
    Except SyntaxError (List Node) :=
  match t with
  | .sign .opening => .ok (.emptyGroup :: stack)
  | .sign .closing => closeGroup stack
  | .sign s => addNode (.leaf (opOfSign afterOperand s)) stack
  | .name name => addNode (.leaf (opOfName name next)) stack
  | .const v => addNode (.leaf (.const v)) stack

/-- Adds all tokens. -/
def addTokens (afterOperand : Bool) (stack : List Node) :
    List Token → Except SyntaxError (List Node)
  | [] => .ok stack
  | t :: rest => do addTokens t.endsOperand (← addToken afterOperand t rest.head? stack) rest

/-- Builds the tree of a list of tokens. -/
def Node.ofTokens (tokens : List Token) : Except SyntaxError Node := do
  match ← addTokens false [.emptyGroup] tokens with
  | [] => .error .unmatchedClose
  | top :: below =>
    match ← endSequences top below with
    | [root] => .ok root
    | _ => .error .unmatchedOpen

/-- Reads an expression in the syntax of the evaluator. -/
def Node.parse (expr : String) : Except SyntaxError Node := do Node.ofTokens (← tokenize expr.toList)

end FraudScreen.Expr
