import Tabletop.Cache.Shared
import Tabletop.Main
import Tabletop.Notation.Format
import Tabletop.Opposed.Format
import Tabletop.Plugin.Script
import Tabletop.Proofs.Card.Runs
import Tabletop.Proofs.CommandLine.Commit
import Tabletop.Proofs.Engine.Announce
import Tabletop.Proofs.Engine.Hidden
import Tabletop.Proofs.Engine.Isolation
import Tabletop.Proofs.Roll.Lifecycle
import Tabletop.Roll.Format
import Tabletop.Proofs.Card.Sanity
import Tabletop.Proofs.Card.Resources
import Tabletop.Proofs.Card.Links
import Tabletop.Proofs.Engine.Deletion
import Tabletop.Proofs.Engine.Interleaving
import Tabletop.Proofs.Engine.Marking
import Tabletop.Proofs.Engine.Overtaking
import Tabletop.Proofs.Instant.Text
import Tabletop.Proofs.Config.Format
import Tabletop.Proofs.Config.RoundTrip
import Tabletop.Proofs.Card.Places
import Tabletop.Proofs.Engine.LastEdit
import Tabletop.Proofs.Card.Format
import Tabletop.Proofs.Card.RoundTrip
import Tabletop.Proofs.Engine.Configs
import Tabletop.Proofs.Chain
import Tabletop.Proofs.Notation.Grammar
import Tabletop.Proofs.Notation.Lexing
import Tabletop.Proofs.Notation.Parsing
import Tabletop.Proofs.Setup.Hooks
import Tabletop.Proofs.Setup.Texts
import Tabletop.Proofs.Rule.Grammar
import Tabletop.Proofs.Rule.Parsing
import Tabletop.Proofs.Rule.Counter
import Tabletop.Proofs.Rule.Height
import Tabletop.Proofs.Card.Journal
import Tabletop.Proofs.Notation.Dice
import Tabletop.Proofs.Notation.Evaluation
import Tabletop.Proofs.Reply.Render
import Tabletop.Proofs.Cache.Recent
import Tabletop.Proofs.Cache.Shared
import Tabletop.Proofs.Card.ReadBack
import Tabletop.Proofs.Card.Bounds
import Tabletop.Proofs.Roll.Growth
import Tabletop.Proofs.Engine.Growth
import Tabletop.Proofs.Card.Exact
import Tabletop.Proofs.Roll.Exact
import Tabletop.Proofs.Engine.Exact
import Tabletop.Proofs.Notation.Maximum
import Tabletop.Proofs.Roll.Sanity
import Tabletop.Proofs.Engine.Sanity
import Tabletop.Proofs.Roll.Preview
import Tabletop.Proofs.Engine.Preview
import Tabletop.Proofs.Card.Attributes
import Tabletop.Proofs.Card.Made
import Tabletop.Proofs.Card.Shifts
import Tabletop.Proofs.Engine.Shifts
import Tabletop.Proofs.Roll.Marks
import Tabletop.Proofs.Engine.Histories
import Tabletop.Proofs.Engine.Marks
import Tabletop.Proofs.Notation.Selectors
import Tabletop.Proofs.Roll.Tests
import Tabletop.Proofs.Roll.Candidates
import Tabletop.Proofs.Roll.Inline
import Tabletop.Proofs.Notation.Longest
import Tabletop.Proofs.Notation.Explosions
import Tabletop.Proofs.Notation.Spelling
import Tabletop.Proofs.Notation.Working
import Tabletop.Proofs.Notation.Marking
import Tabletop.Proofs.Notation.Bonus
import Tabletop.Proofs.Roll.Bonuses
import Tabletop.Proofs.Roll.Mentions
import Tabletop.Proofs.Roll.Numbers
import Tabletop.Proofs.Notation.Modes
import Tabletop.Proofs.Template.References
import Tabletop.Proofs.Template.Groups
import Tabletop.Proofs.Card.Abilities
import Tabletop.Proofs.Alias.Anchoring
import Tabletop.Proofs.Alias.Resolution
import Tabletop.Proofs.Card.Canonical
import Tabletop.Proofs.Roll.Death
import Tabletop.Proofs.Opposed.Latest
import Tabletop.Proofs.Initiative.Order
import Tabletop.Proofs.Decider.Levels
import Tabletop.Proofs.Decider.Decision
import Tabletop.Proofs.Reply.Picking
import Tabletop.Proofs.Card.Migration
import Tabletop.Proofs.Card.Listing
import Tabletop.Proofs.Roll.Tables
