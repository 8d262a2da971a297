import MailIngest.Mail.Syntax.Lexeme

/-!
# Addresses

An address header holds a list of addresses, each a mailbox (`name <local@domain>` or
`local@domain`) or a group (`name: mailbox, mailbox;`). The reader recovers from damage as a
mail client would: an entry that is no address becomes an invalid mailbox that shows as `<>`,
text after an address is joined to it, and empty entries are skipped.

From the tree come the header's groups (`groupsOf`): each address a group of its mailboxes, a
plain mailbox being a group without a name. A mailbox's local part is read with the white space
around its periods removed, its domain with all white space removed, and its display name with
the comments and white space at either end removed.

A group that had text after it counts as an invalid mailbox, which has no local part: reading
such a header fails. So does a domain literal left open, whose reader places its complaint among
the parts of the tree.

The main statements are `addressText_plain` (a bare address shows as its address) and
`groupText_single` (a group without a name shows as its one mailbox).
-/

namespace MailIngest.Mail.Syntax

/-- Text between square brackets up to a bracket, unescaped. -/
def dtext (value : Glyphs) : Read (Node × Glyphs) := do
  let (v, rest, _) ← ptextTo ['[', ']'] value
  pure (.word .ptext v, rest)

/-- The parts of a domain literal closed early by the end of the text. -/
def closeEarly (acc : List Node) : List Node :=
  acc ++ [.note "end of input inside domain-literal", Node.sign .mark ']']

def fwsIfAny (value : Glyphs) : List Node × Glyphs :=
  if startsIn wsp value then
    let (t, rest) := fws value
    ([t], rest)
  else ([], value)

/-- A domain literal: `[`, text, `]`, with the comments and white space around it. -/
def domainLiteral (value : Glyphs) : Read (Node × Glyphs) := do
  let lead ← firstIn cfwsLeader value
  let (pre, value) ← if lead then do
      let (t, rest) ← cfws value
      pure ([t], rest)
    else pure ([], value)
  match value with
  | [] => mismatch
  | g :: rest =>
    if !g.is '[' then mismatch
    else if rest.isEmpty then pure (.tree .domainLiteral (closeEarly pre), rest)
    else do
      let (ws, value) := fwsIfAny rest
      let (t, value) ← dtext value
      let acc := pre ++ [Node.sign .mark '['] ++ ws ++ [t]
      if value.isEmpty then pure (.tree .domainLiteral (closeEarly acc), value)
      else
        let (ws, value) := fwsIfAny value
        let acc := acc ++ ws
        if value.isEmpty then pure (.tree .domainLiteral (closeEarly acc), value)
        else if !startsWith ']' value then mismatch
        else do
          let (post, value) ← cfwsIfAny (value.drop 1)
          pure (.tree .domainLiteral (acc ++ [Node.sign .mark ']'] ++ post), value)

/-- The atoms after the first of an obsolete domain, each after a period, at most `fuel`. -/
def domainAtoms : Nat → List Node → Glyphs → Read (List Node × Glyphs)
  | 0, acc, value => pure (acc, value)
  | fuel + 1, acc, value =>
    if startsWith '.' value then do
      let (t, rest) ← atom (value.drop 1)
      domainAtoms fuel (acc ++ [Node.period, t]) rest
    else pure (acc, value)

/-- A domain: a dot-atom, a domain literal, or atoms joined by periods with comments between. -/
def domain (value : Glyphs) : Read (Node × Glyphs) := do
  let lead ← firstIn cfwsLeader value
  let (leader, value) ← if lead then do
      let (t, rest) ← cfws value
      pure ([t], rest)
    else pure ([], value)
  match value with
  | [] => mismatch
  | g :: _ =>
    if g.is '[' then do
      let (t, rest) ← domainLiteral value
      pure (.tree .domain [t.prepend leader], rest)
    else do
      let (t, value) ← orElse (dotAtom value) fun _ => atom value
      if startsWith '@' value then mismatch
      else
        let t := t.prepend leader
        if startsWith '.' value then do
          let first := if t.isA .dotAtom then t.items else [t]
          let (items, rest) ← domainAtoms (value.length + 1) first value
          pure (.tree .domain items, rest)
        else pure (.tree .domain [t], value)

/-- The words, periods, backslashes and comments of an obsolete local part, at most `fuel`,
last first. -/
def obsLocalItems : Nat → List Node → Glyphs → Read (List Node × Glyphs)
  | 0, acc, value => pure (acc, value)
  | _, acc, [] => pure (acc, [])
  | fuel + 1, acc, g :: rest =>
    let value := g :: rest
    if !(g.is '\\' || !g.isIn phraseEnds) then pure (acc, value)
    else if g.is '.' then obsLocalItems fuel (Node.period :: acc) rest
    else if g.is '\\' then obsLocalItems fuel (Node.word .misplaced [g] :: acc) rest
    else
      match word value with
      | .ok (t, more) => obsLocalItems fuel (t :: acc) more
      | .error s =>
        if s.isMismatch && g.isIn cfwsLeader then do
          let (t, more) ← cfws value
          obsLocalItems fuel (t :: acc) more
        else .error s

/-- An obsolete local part: words and periods with comments and white space between. Reading
nothing, or only comments, looks past the end of the parts. -/
def obsLocalPart (value : Glyphs) : Read (Node × Glyphs) := do
  let (acc, rest) ← obsLocalItems (value.length + 1) [] value
  match acc.reverse with
  | [] => raise "IndexError"
  | [x] => if x.isA .cfws then raise "IndexError" else pure (.tree .obsLocalPart [x], rest)
  | items => pure (.tree .obsLocalPart items, rest)

/-- A local part: a dot-atom, a quoted string, or, when more follows that is not a special
character, the whole read again as an obsolete local part. -/
def localPart (value : Glyphs) : Read (Node × Glyphs) := do
  let lead ← firstIn cfwsLeader value
  let (leader, value) ← if lead then do
      let (t, rest) ← cfws value
      pure ([t], rest)
    else pure ([], value)
  match value with
  | [] => mismatch
  | g :: _ =>
    let (t, value) ← match dotAtom value with
      | .ok r => pure r
      | .error s =>
        if !s.isMismatch then .error s
        else match word value with
          | .ok r => pure r
          | .error s =>
            if !s.isMismatch then .error s
            else if !g.is '\\' && g.isIn phraseEnds then .error s
            else pure (.tree .plain [], value)
    let t := t.prepend leader
    match value with
    | h :: _ =>
      if h.is '\\' || !h.isIn phraseEnds then do
        let text ← shownPlain t
        let (obs, rest) ← obsLocalPart (text ++ value)
        pure (.tree .localPart [obs], rest)
      else pure (.tree .localPart [t], value)
    | [] => pure (.tree .localPart [t], value)

/-- An address: a local part, `@`, a domain; the domain may be missing. -/
def addrSpec (value : Glyphs) : Read (Node × Glyphs) := do
  let (lp, value) ← localPart value
  if !startsWith '@' value then pure (.tree .addrSpec [lp], value)
  else do
    let (d, rest) ← domain (value.drop 1)
    pure (.tree .addrSpec [lp, Node.sign .mark '@', d], rest)

/-- The commas and comments before an obsolete route's first domain, at most `fuel`. -/
def routeLead : Nat → List Node → Glyphs → Read (List Node × Glyphs)
  | 0, acc, value => pure (acc, value)
  | fuel + 1, acc, value =>
    if startsIn cfwsLeader value then do
      let (t, rest) ← cfws value
      routeLead fuel (acc ++ [t]) rest
    else if startsWith ',' value then routeLead fuel (acc ++ [Node.sign .mark ',']) (value.drop 1)
    else pure (acc, value)

/-- The further domains of an obsolete route, each after a comma, at most `fuel`. -/
def routeMore : Nat → List Node → Glyphs → Read (List Node × Glyphs)
  | 0, acc, value => pure (acc, value)
  | fuel + 1, acc, value =>
    if !startsWith ',' value then pure (acc, value)
    else
      let acc := acc ++ [Node.sign .mark ',']
      let value := value.drop 1
      if value.isEmpty then pure (acc, value)
      else do
        let (pre, value) ← cfwsIfAny value
        let acc := acc ++ pre
        match value with
        | [] => raise "IndexError"
        | h :: more =>
          if h.is '@' then do
            let (d, rest) ← domain more
            routeMore fuel (acc ++ [Node.sign .mark '@', d]) rest
          else routeMore fuel acc value

/-- An obsolete route: domains after `@`, separated by commas, ending in `:`. -/
def obsRoute (value : Glyphs) : Read (Node × Glyphs) := do
  let (acc, value) ← routeLead (value.length + 1) [] value
  if !startsWith '@' value then mismatch
  else do
    let (d, value) ← domain (value.drop 1)
    let (acc, value) ← routeMore (value.length + 1) (acc ++ [Node.sign .mark '@', d]) value
    match value with
    | [] => mismatch
    | g :: rest =>
      if !g.is ':' then mismatch else pure (.tree .obsRoute (acc ++ [Node.sign .mark ':']), rest)

/-- An address in angle brackets, an obsolete route allowed before it; `<>` is allowed. -/
def angleAddr (value : Glyphs) : Read (Node × Glyphs) := do
  let lead ← firstIn cfwsLeader value
  let (pre, value) ← if lead then do
      let (t, rest) ← cfws value
      pure ([t], rest)
    else pure ([], value)
  match value with
  | [] => mismatch
  | g :: rest =>
    if !g.is '<' then mismatch
    else
      let acc := pre ++ [Node.sign .mark '<']
      match rest with
      | [] => raise "IndexError"
      | h :: more =>
        if h.is '>' then pure (.tree .angleAddr (acc ++ [Node.sign .mark '>']), more)
        else do
          let (parts, value) ← match addrSpec rest with
            | .ok (a, v) => pure ([a], v)
            | .error s =>
              if !s.isMismatch then .error s
              else match obsRoute rest with
                | .error s => if s.isMismatch then mismatch else .error s
                | .ok (r, v) => do
                  let (a, v) ← addrSpec v
                  pure ([r, a], v)
          let value := if startsWith '>' value then value.drop 1 else value
          let (post, value) ← cfwsIfAny value
          pure (.tree .angleAddr (acc ++ parts ++ [Node.sign .mark '>'] ++ post), value)

/-- A display name: a phrase, flagged when it was not a plain run of words. -/
def displayName (value : Glyphs) : Read (Node × Glyphs) := do
  let (items, flagged, value) ← phraseParts value
  pure (.tree (.displayName flagged) items, value)

/-- A mailbox with a display name or angle brackets. Comments before the name go into its
first word, which fails when that word is a period. -/
def nameAddr (value : Glyphs) : Read (Node × Glyphs) := do
  let lead ← firstIn cfwsLeader value
  let (leader, value) ← if lead then do
      let (t, rest) ← cfws value
      if rest.isEmpty then mismatch else pure (some t, rest)
    else pure (none, value)
  match value with
  | [] => raise "IndexError"
  | g :: _ =>
    let (front, leader, value) ← if g.is '<' then pure ([], leader, value)
      else if g.isIn phraseEnds then mismatch
      else do
        let (dn, value) ← displayName value
        if value.isEmpty then mismatch
        else
          let dn ← match leader, dn with
            | none, _ => pure dn
            | some l, .tree k (.tree k2 ys :: more) => pure (.tree k (.tree k2 (l :: ys) :: more))
            | some _, .tree _ [] => raise "IndexError"
            | some _, _ => raise "TypeError"
          pure ([dn], none, value)
    let (aa, value) ← angleAddr value
    let aa := match leader with
      | some l => aa.prepend [l]
      | none => aa
    pure (.tree .nameAddr (front ++ [aa]), value)

/-- A mailbox. Collecting its defects fails on a domain literal left open. -/
def mailbox (value : Glyphs) : Read (Node × Glyphs) := do
  let (t, value) ← orElse (nameAddr value) fun _ => orElse (addrSpec value) fun _ => mismatch
  checkDefects t
  pure (.tree .mailbox [t], value)

/-- The phrases and stray special characters of an invalid mailbox up to one of `ends`, at
most `fuel`, in order. -/
def invalidItems (ends : List Char) : Nat → List Node → Glyphs → Read (List Node × Glyphs)
  | 0, acc, value => pure (acc, value)
  | _, acc, [] => pure (acc, [])
  | fuel + 1, acc, g :: rest =>
    let value := g :: rest
    if g.isIn ends then pure (acc, value)
    else if g.isIn phraseEnds then invalidItems ends fuel (acc ++ [Node.word .misplaced [g]]) rest
    else do
      let (p, more) ← phrase value
      invalidItems ends fuel (acc ++ [p]) more

def invalidMailbox (value : Glyphs) (ends : List Char) : Read (Node × Glyphs) := do
  let (items, rest) ← invalidItems ends (value.length + 1) [] value
  pure (.tree .invalidMailbox items, rest)

/-- The entry read where a mailbox was looked for and none found: comments alone, nothing, or
an invalid mailbox. -/
def notMailbox (value : Glyphs) (ends : List Char) : Read (List Node × Glyphs) := do
  if startsIn cfwsLeader value then do
    let (leader, v) ← cfws value
    if v.isEmpty || startsIn ends v then pure ([leader], v)
    else do
      let (im, v) ← invalidMailbox v ends
      pure ([im.prepend [leader]], v)
  else if startsWith ',' value then pure ([], value)
  else do
    let (im, v) ← invalidMailbox value ends
    pure ([im], v)

/-- The entries of a mailbox list up to a `;`, at most `fuel`, last first. -/
def mailboxItems : Nat → List Node → Glyphs → Read (List Node × Glyphs)
  | 0, acc, value => pure (acc, value)
  | fuel + 1, acc, value =>
    if value.isEmpty || startsWith ';' value then pure (acc, value)
    else do
      let (acc, value) ← match mailbox value with
        | .ok (m, v) => pure (m :: acc, v)
        | .error s =>
          if !s.isMismatch then .error s
          else do
            let (found, v) ← notMailbox value [',', ';']
            pure (found ++ acc, v)
      let (acc, value) ← if !value.isEmpty && !startsIn [',', ';'] value then do
          let (im, v) ← invalidMailbox value [',', ';']
          match acc with
          | last :: more => pure (last.append im.items :: more, v)
          | [] => raise "IndexError"
        else pure (acc, value)
      if startsWith ',' value then mailboxItems fuel (Node.sign .mark ',' :: acc) (value.drop 1)
      else mailboxItems fuel acc value

def mailboxList (value : Glyphs) : Read (Node × Glyphs) := do
  let (acc, rest) ← mailboxItems (value.length + 1) [] value
  pure (.tree .mailboxList acc.reverse, rest)

/-- Whether a node counts as a mailbox of a list, valid or not. -/
def isMailboxEntry (n : Node) : Bool := n.isA .mailbox || n.isA .invalidMailbox

/-- The members of a group: a mailbox list, or only comments. -/
def groupList (value : Glyphs) : Read (Node × Glyphs) := do
  if value.isEmpty then pure (.tree .groupList [], value)
  else
    let (leader, value) ← cfwsIfAny value
    if !leader.isEmpty && (value.isEmpty || startsWith ';' value) then
      pure (.tree .groupList leader, value)
    else do
      let (ml, value) ← mailboxList value
      if (ml.items.filter isMailboxEntry).isEmpty then
        pure (.tree .groupList (leader ++ ml.items), value)
      else pure (.tree .groupList [ml.prepend leader], value)

def group (value : Glyphs) : Read (Node × Glyphs) := do
  let (dn, value) ← displayName value
  if !startsWith ':' value then mismatch
  else
    let value := value.drop 1
    let acc := [dn, Node.sign .mark ':']
    if startsWith ';' value then pure (.tree (.group false) (acc ++ [Node.sign .mark ';']), value.drop 1)
    else do
      let (gl, value) ← groupList value
      if !value.isEmpty && !startsWith ';' value then mismatch
      else do
        let (post, value) ← cfwsIfAny (value.drop 1)
        pure (.tree (.group false) (acc ++ [gl, Node.sign .mark ';'] ++ post), value)

def address (value : Glyphs) : Read (Node × Glyphs) := do
  let (t, value) ← orElse (group value) fun _ => orElse (mailbox value) fun _ => mismatch
  pure (.tree .address [t], value)

/-- An address made to count as an invalid mailbox, text after it joined to it. -/
def demote (extra : List Node) : Node → Node
  | .tree (.group _) xs => .tree (.group true) (xs ++ extra)
  | n => n.append extra

/-- The entries of an address list, at most `fuel`, last first. -/
def addressItems : Nat → List Node → Glyphs → Read (List Node × Glyphs)
  | 0, acc, value => pure (acc, value)
  | _, acc, [] => pure (acc, [])
  | fuel + 1, acc, value => do
    let (acc, value) ← match address value with
      | .ok (a, v) => pure (a :: acc, v)
      | .error s =>
        if !s.isMismatch then .error s
        else do
          let (found, v) ← notMailbox value [',']
          let found := found.map fun n => if n.isA .invalidMailbox then Node.tree .address [n] else n
          pure (found ++ acc, v)
    let (acc, value) ← if !value.isEmpty && !startsWith ',' value then do
        let (im, v) ← invalidMailbox value [',']
        match acc with
        | .tree .address (m :: ms) :: more => pure (.tree .address (demote im.items m :: ms) :: more, v)
        | _ => raise "IndexError"
      else pure (acc, value)
    if value.isEmpty then pure (acc, value)
    else addressItems fuel (Node.sign .mark ',' :: acc) (value.drop 1)

def addressList (value : Glyphs) : Read Node := do
  let (acc, _) ← addressItems (value.length + 1) [] value
  pure (.tree .addressList acc.reverse)

/-- One step of stripping the white space around the periods of a local part: the parts so far
(last first, after a period that stands for the start), whether the last was a tree. -/
def stripStep (res : List Node × Bool) (tok : Node) : Read (List Node × Bool) := do
  let (res, lastIsTree) := res
  if tok.isA .cfws then pure (res, lastIsTree)
  else
    let last := res.headD Node.period
    let res ← if lastIsTree && tok.isA .dot then
        match last with
        | .tree _ ys =>
          match ys.getLast? with
          | some y => pure (if y.isA .cfws then Node.tree .plain ys.dropLast :: res.tail else res)
          | none => raise "IndexError"
        | _ => pure res
      else pure res
    let isTree := match tok with
      | .tree .. => true
      | _ => false
    if isTree && last.isA .dot then
      match tok with
      | .tree _ (y :: ys) => pure ((if y.isA .cfws then Node.tree .plain ys else tok) :: res, isTree)
      | _ => raise "IndexError"
    else pure (tok :: res, isTree)

/-- The local part a local part node means: its words without the white space at either end
and around its periods. -/
def localPartText (lp : Node) : Read Glyphs := do
  match lp.items with
  | first :: _ =>
    let (res, _) ← (first.items ++ [Node.period]).foldlM stripStep ([Node.period], false)
    valuesOf ((res.drop 1).reverse.drop 1)
  | [] => raise "IndexError"

/-- The domain a domain node means: its text with all white space removed. -/
def domainText (d : Node) : Read Glyphs := dropSpace <$> valueOf d

def angleSpec (aa : Node) : Option Node := aa.items.find? (·.isA .addrSpec)

def specLocal (spec : Node) : Read (Option Glyphs) :=
  match spec.items with
  | lp :: _ => some <$> localPartText lp
  | [] => raise "IndexError"

def specDomain (spec : Node) : Read (Option Glyphs) :=
  match spec.items with
  | [_, _, d] => some <$> domainText d
  | _ :: _ :: _ :: _ => match spec.items.getLast? with
    | some d => some <$> domainText d
    | none => pure none
  | _ => pure none

/-- An address of a header: display name, user name and domain. -/
structure Party where
  displayName : Glyphs := []
  username : Glyphs := []
  domain : Glyphs := []
deriving DecidableEq, Inhabited

/-- A group of addresses of a header; a plain mailbox is a group without a name. -/
structure Group where
  displayName : Option Glyphs
  members : List Party
deriving DecidableEq, Inhabited

/-- The display name, local part and domain of a mailbox entry, each possibly missing. -/
def mailboxParts (mb : Node) : Read (Option Glyphs × Option Glyphs × Option Glyphs) :=
  match mb with
  | .tree .mailbox (first :: _) =>
    if first.isA .nameAddr then do
      let items := first.items
      let dn ← if items.length = 1 then pure none
        else match items with
          | d :: _ => some <$> displayNameOf d.items
          | [] => pure none
      match items.getLast? >>= angleSpec with
      | some spec => pure (dn, ← specLocal spec, ← specDomain spec)
      | none => pure (dn, none, none)
    else do pure (none, ← specLocal first, ← specDomain first)
  | .tree .mailbox [] => raise "IndexError"
  | .tree (.group true) xs => do
    match xs with
    | d :: _ =>
      let _ ← displayNameOf d.items
      raise "AttributeError"
    | [] => raise "IndexError"
  | _ => pure (none, none, none)

def hasBreak (gs : Glyphs) : Bool := gs.any fun g => g.is '\r' || g.is '\n'

/-- The address a mailbox entry gives; address parts may not hold line breaks. -/
def partyOf (mb : Node) : Read Party := do
  let (dn, lp, d) ← mailboxParts mb
  let p : Party := { displayName := dn.getD [], username := lp.getD [], domain := d.getD [] }
  if hasBreak (p.displayName ++ p.username ++ p.domain) then raise "ValueError" else pure p

def entriesOf (addr : Node) : List Node :=
  match addr.items with
  | m :: _ =>
    if m.isA .mailbox || m.isA .invalidMailbox || m.isA (.group true) then [m]
    else match m.items with
      | _ :: _ :: gl :: _ =>
        if gl.isA .groupList then
          match gl.items with
          | ml :: _ => if ml.isA .mailboxList then ml.items.filter isMailboxEntry else []
          | [] => []
        else []
      | _ => []
  | [] => []

def groupName (addr : Node) : Read (Option Glyphs) :=
  match addr.items with
  | m :: _ =>
    if m.isA (.group false) then
      match m.items with
      | d :: _ => some <$> displayNameOf d.items
      | [] => raise "IndexError"
    else pure none
  | [] => raise "IndexError"

def groupsOf (list : Node) : Read (List Group) := do
  let gs ← (list.items.filter (·.isA .address)).mapM fun addr => do
    let name ← groupName addr
    let members ← (entriesOf addr).mapM partyOf
    pure ({ displayName := name, members } : Group)
  checkDefects list
  pure gs

/-- An address without its display name: the local part, quoted when it holds special
characters, `@` and the domain; `<>` when both are empty. -/
def specText (p : Party) : Glyphs :=
  let lp := if p.username.any (·.isIn dotAtomEnds) then quoteString p.username else p.username
  if !p.domain.isEmpty then lp ++ [.char '@'] ++ p.domain
  else if lp.isEmpty then glyphs "<>" else lp

/-- A display name as written in a header: quoted when it holds special characters. -/
def displayText (name : Glyphs) : Glyphs :=
  if name.any (·.isIn specials) then quoteString name else name

def addressText (p : Party) : Glyphs :=
  let disp := displayText p.displayName
  if disp.isEmpty then specText p
  else
    let spec := specText p
    disp ++ glyphs " <" ++ (if spec = glyphs "<>" then [] else spec) ++ [.char '>']

/-- A group as written in a header: its one mailbox when it has no name. -/
def groupText (g : Group) : Glyphs :=
  match g.displayName, g.members with
  | none, [p] => addressText p
  | name, ps =>
    let disp := match name with
      | some n => displayText n
      | none => glyphs "None"
    let members := match ps.map addressText with
      | [] => []
      | a :: more => .char ' ' :: a ++ more.flatMap (glyphs ", " ++ ·)
    disp ++ [.char ':'] ++ members ++ [.char ';']

/-- An address header's text: its groups, separated by commas. -/
def groupsText (gs : List Group) : Glyphs :=
  match gs.map groupText with
  | [] => []
  | a :: more => a ++ more.flatMap (glyphs ", " ++ ·)

theorem addressText_plain (p : Party) (h : p.displayName = []) : addressText p = specText p := by
  simp [addressText, displayText, h]

theorem groupText_single (p : Party) : groupText { displayName := none, members := [p] } = addressText p :=
  rfl

end MailIngest.Mail.Syntax
