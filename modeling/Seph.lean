import Seph.Apdu.Assembly
import Seph.Apdu.Chunk
import Seph.Automation.Action
import Seph.Automation.Basic
import Seph.Automation.Document
import Seph.Bagl.Drawing
import Seph.Bagl.Label
import Seph.Bagl.Payload
import Seph.Bagl.Shape
import Seph.Bridge.Basic
import Seph.Bridge.Error
import Seph.Bridge.Notice
import Seph.Bytes
import Seph.Channel.Apdu
import Seph.Channel.Button
import Seph.Channel.Error
import Seph.Channel.Finger
import Seph.Channel.Viewer
import Seph.Display.Canvas
import Seph.Display.Font
import Seph.Display.Framebuffer
import Seph.Display.Packing
import Seph.Display.ScreenText
import Seph.Engine.Basic
import Seph.Engine.Console
import Seph.Engine.Output
import Seph.Engine.Refresh
import Seph.Exchange.Basic
import Seph.Framing
import Seph.Json.Token
import Seph.Json.Value
import Seph.Link.Basic
import Seph.Link.Error
import Seph.Link.Nfc
import Seph.Link.Usb
import Seph.Main
import Seph.Model
import Seph.Nbgl.Drawing
import Seph.Nbgl.Payload
import Seph.Nbgl.Picture
import Seph.Options.Address
import Seph.Options.Basic
import Seph.Pacer.Basic
import Seph.Packet.Basic
import Seph.Packet.Error
import Seph.Packet.Stream
import Seph.Packet.Tag
import Seph.Pattern.Basic
import Seph.Pattern.Bracket
import Seph.Pattern.Parse
import Seph.Pattern.Syntax
import Seph.Picture.Checksum
import Seph.Picture.Fault
import Seph.Picture.Gzip
import Seph.Picture.Inflate
import Seph.Picture.Png
import Seph.Picture.RunLength
import Seph.Proofs.Apdu.Assembly
import Seph.Proofs.Apdu.Chunk
import Seph.Proofs.Apdu.RoundTrip
import Seph.Proofs.Automation.Anchoring
import Seph.Proofs.Automation.Firing
import Seph.Proofs.Bagl.Clearing
import Seph.Proofs.Bagl.Disc
import Seph.Proofs.Bagl.Payload
import Seph.Proofs.Bagl.Rounding
import Seph.Proofs.Bridge.Answers
import Seph.Proofs.Bridge.Events
import Seph.Proofs.Bridge.Exchanges
import Seph.Proofs.Bridge.Handshake
import Seph.Proofs.Bridge.Lengths
import Seph.Proofs.Bridge.Presses
import Seph.Proofs.Bridge.Requests
import Seph.Proofs.Bridge.Responses
import Seph.Proofs.Bridge.Run
import Seph.Proofs.Bridge.Shutdown
import Seph.Proofs.Bridge.Timeouts
import Seph.Proofs.Bytes
import Seph.Proofs.Channel.Apdu
import Seph.Proofs.Channel.Finger
import Seph.Proofs.Display.Bitmap
import Seph.Proofs.Display.Commit
import Seph.Proofs.Display.Drawing
import Seph.Proofs.Display.Framebuffer
import Seph.Proofs.Display.Layout
import Seph.Proofs.Display.Payload
import Seph.Proofs.Display.Refresh
import Seph.Proofs.Display.Run
import Seph.Proofs.Display.ScreenText
import Seph.Proofs.Display.TextBoxes
import Seph.Proofs.Engine.Console
import Seph.Proofs.Engine.Display
import Seph.Proofs.Engine.Handling
import Seph.Proofs.Engine.RawBitmap
import Seph.Proofs.Engine.Reactions
import Seph.Proofs.Engine.Refusal
import Seph.Proofs.Engine.Run
import Seph.Proofs.Engine.Screen
import Seph.Proofs.Engine.Texts
import Seph.Proofs.Exchange.Response
import Seph.Proofs.Exchange.Run
import Seph.Proofs.Exchange.Settlement
import Seph.Proofs.Link.Enumeration
import Seph.Proofs.Link.Events
import Seph.Proofs.Link.Lengths
import Seph.Proofs.Link.Order
import Seph.Proofs.Link.Payload
import Seph.Proofs.Link.Reception
import Seph.Proofs.Link.Run
import Seph.Proofs.Nbgl.Order
import Seph.Proofs.Nbgl.Painting
import Seph.Proofs.Nbgl.Payload
import Seph.Proofs.Nbgl.Picture
import Seph.Proofs.Nbgl.Rendering
import Seph.Proofs.Pacer.Order
import Seph.Proofs.Pacer.Run
import Seph.Proofs.Pacer.Ticks
import Seph.Proofs.Packet.Stream
import Seph.Proofs.Pattern.Brackets
import Seph.Proofs.Pattern.Groups
import Seph.Proofs.Pattern.Matching
import Seph.Proofs.Pattern.Signs
import Seph.Proofs.Picture.CodeWords
import Seph.Proofs.Picture.RunLength
import Seph.Proofs.Session.Clients
import Seph.Proofs.Session.Moves
import Seph.Proofs.Text
import Seph.Proofs.Usb.Payload
import Seph.Proofs.Wire
import Seph.Session.Basic
import Seph.Session.Call
import Seph.Session.Client
import Seph.Session.Input
import Seph.Text.Blank
import Seph.Text.Decimal
import Seph.Text.Hex
import Seph.Text.Utf8
import Seph.Unicode.Age
import Seph.Unicode.CaseFold
import Seph.Unicode.Category
import Seph.Unicode.CharSet
import Seph.Unicode.Named
import Seph.Unicode.Property
import Seph.Unicode.Row
import Seph.Unicode.Script
import Seph.Usb.Payload
import Seph.Proofs.Pacer.Overlap
