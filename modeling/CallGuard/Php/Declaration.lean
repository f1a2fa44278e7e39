import CallGuard.Php.Type

/-!
# Declarations

Classes, interfaces, traits and enumerations have members; constants and imported names come in
lists.  Where a name is declared, every word is a name.

Main definitions:

- {lit}`membersMove`: the members of a class.
- {lit}`traitsMove`: the traits that a class uses.
- {lit}`constantsMove`: constants.
- {lit}`importsMove`: imported names.
-/

namespace CallGuard.Php

/-! ## Classes -/

/-- What a class extends and implements, and the type that backs an enumeration. -/
def heritageMove (p : Peek) : Move :=
  match p.sign with
  | .word _ =>
    if p.isAnyKeyword ["extends", "implements"] then .take .other [.heritage]
    else .take p.nameKind [.heritage]
  | .mark "," => .takeMark "," [.heritage]
  | .mark "\\" => .takeMark "\\" [.name, .heritage]
  | .mark ":" => .takeMark ":" [.backing, .heritage]
  | _ => .pass

/-- The type that backs an enumeration. -/
def backingMove (p : Peek) : Move :=
  match p.sign with
  | .word text => .take (if ["string", "int"].contains text then .other else .identifier) []
  | _ => .pass

/-- The arguments of an anonymous class. -/
def classArgumentsMove (p : Peek) : Move :=
  if p.isMark "(" then .takeMark "(" [.arguments, .mark ")"] else .pass

/-! ## Members -/

/-- The words for modifiers of members other than visibilities. -/
def modifierWords : List String :=
  ["abstract", "final", "readonly", "static", "var"]

/-- A constant with its value, and further ones. -/
def constantRest : List Goal :=
  [.mark "=", .operand, .constants, .semicolon]

/-- Further constants. -/
def constantsMove (p : Peek) : Move :=
  if p.isMark "," then .take .other [.name, .mark "=", .operand, .constants] else .pass

/-- The name of a constant of a class, perhaps with its type. -/
def typedConstantMove (p : Peek) : Move :=
  match p.sign with
  | .word _ =>
    if (typeWordKind? p).isNone && p.leadsTo "=" then .take .identifier constantRest
    else (typeStart false p).andThen (.name :: constantRest)
  | _ => (typeStart false p).andThen (.name :: constantRest)

/-- A function of a class. -/
def method : List Goal :=
  .optionalMark "&" :: .name :: Goal.signature ++ [.returnType, .methodBody]

/-- The start of a member that may follow modifiers. -/
def memberStart (p : Peek) : Move :=
  match p.keyword? with
  | some "const" => .take .other [.typedConstant]
  | some "function" => .take .function method
  | some word =>
    if visibilityWords.contains word then .take .other [.scope, .memberRest]
    else if modifierWords.contains word then .take .other [.memberRest]
    else .refuse
  | none => .refuse

/-- The members of a class. -/
def membersMove (p : Peek) : Move :=
  match p.sign with
  | .mark "#[" => .takeMark "#[" [.attributes, .mark "]", .members]
  | .mark ";" => .takeMark ";" [.members]
  | .mark _ => if p.isMark closeBrace then .pass else .refuse
  | .word _ =>
    if p.isKeyword "use" then .take .other [.traits, .members]
    else if p.isKeyword "case" then .take .other [.name, .caseValue, .semicolon, .members]
    else (memberStart p).andThen [.members]
  | .value _ => .refuse

/-- What follows a modifier of a member. -/
def memberRestMove (p : Peek) : Move :=
  match p.sign with
  | .value .variable => .take .variable [.propertyRest]
  | _ => (memberStart p).orElse ((typeStart false p).andThen [.memberRest])

/-- What follows the name of a property. -/
def propertyRestMove (p : Peek) : Move :=
  match p.sign with
  | .value .variable => .take .variable [.propertyRest]
  | .mark "=" => .takeMark "=" [.operand, .propertyRest]
  | .mark "," => .takeMark "," [.propertyRest]
  | .mark ";" => .takeMark ";" []
  | .mark mark =>
    if mark == openBrace then .takeMark mark [.hooks, .mark closeBrace] else .refuse
  | _ => .refuse

/-- The body of a method, or the semicolon in its place. -/
def methodBodyMove (p : Peek) : Move :=
  match p.sign with
  | .mark ";" => .takeMark ";" []
  | .mark mark => if mark == openBrace then .takeMark mark Goal.blockRest else .refuse
  | _ => .refuse

/-- Hooks of a property. -/
def hooksMove (p : Peek) : Move :=
  match p.sign with
  | .mark "#[" => .takeMark "#[" [.attributes, .mark "]", .hooks]
  | .mark "&" => .takeMark "&" [.hooks]
  | .word _ =>
    if p.isKeyword "final" then .take .other [.hooks] else .take .identifier [.hookRest, .hooks]
  | _ => .pass

/-- What follows the name of a hook. -/
def hookRestMove (p : Peek) : Move :=
  match p.sign with
  | .mark "(" => .takeMark "(" [.parameters, .mark ")", .hookRest]
  | .mark "=>" => .takeMark "=>" [.operand, .semicolon]
  | .mark ";" => .takeMark ";" []
  | .mark mark => if mark == openBrace then .takeMark mark Goal.blockRest else .pass
  | _ => .pass

/-- The value of a case. -/
def caseValueMove (p : Peek) : Move :=
  if p.isMark "=" then .take .other [.operand] else .pass

/-! ## Traits -/

/-- Names of traits, and rules for what they share. -/
def traitsMove (p : Peek) : Move :=
  match p.sign with
  | .word _ => .take p.nameKind [.traits]
  | .mark "," => .takeMark "," [.traits]
  | .mark "\\" => .takeMark "\\" [.name, .traits]
  | .mark ";" => .takeMark ";" []
  | .mark mark =>
    if mark == openBrace then .takeMark mark [.traitRules, .mark closeBrace] else .refuse
  | _ => .refuse

/-- Rules for the names of traits. -/
def traitRulesMove (p : Peek) : Move :=
  match p.sign with
  | .word _ =>
    if p.isAnyKeyword ["self", "parent", "static", "array"] then .take .other [.traitRule]
    else .take p.nameKind [.traitRule]
  | .mark "\\" => .takeMark "\\" [.name, .traitRule]
  | .mark ";" => .takeMark ";" [.traitRules]
  | _ => .pass

/-- What follows the name of a method in a rule. -/
def traitRuleMove (p : Peek) : Move :=
  match p.sign with
  | .mark "::" => .takeMark "::" [.member, .traitRule]
  | .mark "\\" => .takeMark "\\" [.name, .traitRule]
  | .mark ";" => .takeMark ";" [.traitRules]
  | .word _ =>
    if p.isKeyword "insteadof" then .take .other [.traitLosers]
    else if p.isKeyword "as" then .take .other [.traitAlias]
    else .refuse
  | _ => .refuse

/-- The alias in a rule, behind a visibility or not. -/
def traitAliasMove (p : Peek) : Move :=
  match p.sign with
  | .word _ =>
    if p.isAnyKeyword visibilityWords then .take .other [.name, .traitRule]
    else .take .identifier [.traitRule]
  | _ => .refuse

/-- The names of the traits that lose in a rule. -/
def traitLosersMove (p : Peek) : Move :=
  match p.sign with
  | .word _ => .take p.nameKind [.traitLosers]
  | .mark "," => .takeMark "," [.traitLosers]
  | .mark "\\" => .takeMark "\\" [.name, .traitLosers]
  | .mark ";" => .takeMark ";" [.traitRules]
  | _ => .refuse

/-! ## Imported names -/

/-- Imported names, which may be those of functions or constants. -/
def importsMove (p : Peek) : Move :=
  match p.sign with
  | .word _ =>
    if p.isKeyword "function" then .take .function [.imports]
    else if p.isKeyword "const" then .take .other [.imports]
    else .take p.nameKind [.importRest]
  | .mark "\\" => .takeMark "\\" [.importPart]
  | .mark "," => .takeMark "," [.imports]
  | _ => .pass

/-- What follows a separator in an imported name: a further part, or a group of names. -/
def importPartMove (p : Peek) : Move :=
  match p.sign with
  | .word _ => .take .identifier [.importRest]
  | .mark mark =>
    if mark == openBrace then .takeMark mark [.imports, .mark closeBrace, .importRest] else .refuse
  | _ => .refuse

/-- What follows an imported name. -/
def importRestMove (p : Peek) : Move :=
  match p.sign with
  | .mark "\\" => .takeMark "\\" [.importPart]
  | .mark "," => .takeMark "," [.imports]
  | .word _ => if p.isKeyword "as" then .take .other [.name, .importRest] else .pass
  | _ => .pass

end CallGuard.Php
