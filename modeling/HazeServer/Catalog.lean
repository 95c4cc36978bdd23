import HazeServer.Fault

/-! # The keyword catalogue

Every keyword, directive, register and opcode of Haze that completion offers, in display order. An
entry is identified by the number of its token kind, which travels to the client with a completion
item and comes back when the item is to be filled in.
-/

namespace HazeServer

/-- The kinds of token in the catalogue. -/
inductive TokenKind where
  | function
  | intrinsic
  | geometry
  | byte
  | string
  | nvr
  | returnWord
  | whileWord
  | forWord
  | ifWord
  | elseWord
  | asm
  | print
  | macroDirective
  | defineDirective
  | originDirective
  | hookDirective
  | unhookDirective
  | r0
  | r1
  | r2
  | r3
  | move
  | load
  | copy
  | save
  | iadd
  | isub
  | band
  | bior
  | bxor
  | call
  | exit
  | push
  | pull
  | brnz
  | bool
  deriving DecidableEq, Repr

namespace TokenKind

/-- The number of a kind, by which clients refer to it. -/
def number : TokenKind → Nat
  | .function => 0
  | .intrinsic => 1
  | .geometry => 2
  | .byte => 3
  | .string => 4
  | .nvr => 5
  | .returnWord => 6
  | .whileWord => 7
  | .forWord => 8
  | .ifWord => 9
  | .elseWord => 10
  | .asm => 11
  | .print => 12
  | .macroDirective => 13
  | .defineDirective => 14
  | .originDirective => 15
  | .hookDirective => 16
  | .unhookDirective => 17
  | .r0 => 18
  | .r1 => 19
  | .r2 => 20
  | .r3 => 21
  | .move => 22
  | .load => 23
  | .copy => 24
  | .save => 25
  | .iadd => 26
  | .isub => 27
  | .band => 28
  | .bior => 29
  | .bxor => 30
  | .call => 31
  | .exit => 32
  | .push => 33
  | .pull => 34
  | .brnz => 35
  | .bool => 36

/-- The name of a kind. -/
def name : TokenKind → String
  | .function => "FUNCTION"
  | .intrinsic => "INTRINSIC"
  | .geometry => "GEOMETRY"
  | .byte => "BYTE"
  | .string => "STRING"
  | .nvr => "NVR"
  | .returnWord => "RETURN"
  | .whileWord => "WHILE"
  | .forWord => "FOR"
  | .ifWord => "IF"
  | .elseWord => "ELSE"
  | .asm => "ASM"
  | .print => "PRINT"
  | .macroDirective => "DOTMACRO"
  | .defineDirective => "DOTDEFINE"
  | .originDirective => "DOTORG"
  | .hookDirective => "DOTHOOK"
  | .unhookDirective => "DOTUNHOOK"
  | .r0 => "R0"
  | .r1 => "R1"
  | .r2 => "R2"
  | .r3 => "R3"
  | .move => "MOVE"
  | .load => "LOAD"
  | .copy => "COPY"
  | .save => "SAVE"
  | .iadd => "IADD"
  | .isub => "ISUB"
  | .band => "BAND"
  | .bior => "BIOR"
  | .bxor => "BXOR"
  | .call => "CALL"
  | .exit => "EXIT"
  | .push => "PUSH"
  | .pull => "PULL"
  | .brnz => "BRNZ"
  | .bool => "BOOL"

end TokenKind

/-- A keyword as completion shows it. Its detail is its label. -/
structure CatalogEntry where
  kind : TokenKind
  label : String
  documentation : String
  deriving DecidableEq, Repr

/-- The catalogue, in display order. -/
def catalog : List CatalogEntry := [
  ⟨.function, "function",
    "function \x7btypename\x7d \x7bidentifier\x7d = ( \x7barguments\x7d ) \x7bstatement\x7d"⟩,
  ⟨.intrinsic, "intrinsic", "intrinsic \x7bidentifier\x7d = \x7bvalue\x7d;"⟩,
  ⟨.geometry, "geometry", "geometry \x7bWIP\x7d;"⟩,
  ⟨.byte, "byte", "byte \x7bidentifier\x7d = \x7bexpression\x7d;"⟩,
  ⟨.string, "string", "string \x7bidentifier\x7d = \x22\x7btext\x7d\x22;"⟩,
  ⟨.nvr, "nvr", "function nvr \x7bidentifier\x7d = ..."⟩,
  ⟨.returnWord, "return", "return \x7bexpression\x7d;"⟩,
  ⟨.whileWord, "while", "while (\x7bexpression\x7d) \x7bstatement\x7d"⟩,
  ⟨.forWord, "for",
    "for (\x7bstatement\x7d; \x7bexpression\x7d; \x7bexpression\x7d) \x7bstatement\x7d"⟩,
  ⟨.ifWord, "if", "if (\x7bexpression\x7d) \x7bstatement\x7d"⟩,
  ⟨.elseWord, "else", "if ... else \x7bstatement\x7d"⟩,
  ⟨.asm, "asm", "asm \x7b \x7bcommands\x7d \x7d"⟩,
  ⟨.print, "print", "print(\x7bexpression\x7d);"⟩,
  ⟨.macroDirective, ".macro",
    ".macro \x7bidentifier\x7d = (\x7barguments\x7d): \x7b \x7bsubstitutions\x7d \x7d"⟩,
  ⟨.defineDirective, ".define", ".define \x7bidentifier\x7d = \x7bconstexpr\x7d"⟩,
  ⟨.originDirective, ".org", ".org \x7baddress\x7d"⟩,
  ⟨.hookDirective, ".hook", ".hook"⟩,
  ⟨.unhookDirective, ".unhook", ".unhook"⟩,
  ⟨.r0, "r0", "r0"⟩,
  ⟨.r1, "r1", "r1"⟩,
  ⟨.r2, "r2", "r2"⟩,
  ⟨.r3, "r3", "r3"⟩,
  ⟨.move, "move", "move \x7bdst-reg\x7d, \x7bsrc-reg\x7d"⟩,
  ⟨.load, "load", "load \x7bdst-reg\x7d, &\x7bsrc-addr\x7d"⟩,
  ⟨.save, "save", "save &\x7bdst-addr\x7d, \x7bsrc-reg\x7d"⟩,
  ⟨.copy, "copy", "copy \x7bdst-reg\x7d, #\x7bsrc-imm\x7d"⟩,
  ⟨.iadd, "iadd", "iadd \x7bdst-reg\x7d, \x7bsrc-reg\x7d"⟩,
  ⟨.isub, "isub", "isub \x7bdst-reg\x7d, \x7bsrc-reg\x7d"⟩,
  ⟨.band, "band", "band \x7bdst-reg\x7d, \x7bsrc-reg\x7d"⟩,
  ⟨.bior, "bior", "bior \x7bdst-reg\x7d, \x7bsrc-reg\x7d"⟩,
  ⟨.bxor, "bxor", "bxor \x7bdst-reg\x7d, \x7bsrc-reg\x7d"⟩,
  ⟨.call, "call", "call &\x7bdst-addr\x7d"⟩,
  ⟨.exit, "exit", "exit"⟩,
  ⟨.push, "push", "push \x7bsrc-reg\x7d"⟩,
  ⟨.pull, "pull", "pull \x7bdst-reg\x7d"⟩,
  ⟨.brnz, "brnz", "brnz &\x7bdst-addr\x7d, \x7bsrc-reg\x7d"⟩,
  ⟨.bool, "bool", "bool \x7bsrc-reg\x7d"⟩]

/-- The entry of a number. -/
def catalogEntry? (number : Int) : Option CatalogEntry :=
  catalog.find? fun entry => (entry.kind.number : Int) == number

/-- The entry for a key sent by a client: only an integer that is the number of a kind has one. -/
def catalogLookup (key : Json) : Except Fault CatalogEntry :=
  match key with
  | .int number =>
      match catalogEntry? number with
      | some entry => .ok entry
      | none => .error (.unknownKey key)
  | _ => .error (.unknownKey key)

end HazeServer
