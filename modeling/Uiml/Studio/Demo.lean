/-!
# The demo

The document that is shown, and the script that is played on it, if no other document is asked for.
-/

namespace Uiml.Studio

/-- A small menu screen with most kinds of elements. -/
def demoDocument : String := r##"<?xml version="1.0" encoding="utf-8"?>
<UIML>
  <Canvas name="hud" renderMode="overlay" referenceResolution="1920,1080">
    <Panel name="menu" size="520,640" backgroundColor="31,36,46,242">
      <Text name="title" text="NABU" fontSize="48" position="0,260" size="480,80" bindId="0" />
      <Text name="subtitle" text="markup driven widgets" fontSize="18" position="0,210" size="480,30" color="#9FB3C8" />

      <VerticalLayout name="buttons" position="0,60" size="300,220" spacing="12" padding="10,10,10,10">
        <Button name="play" text="Play" onClick="startGame(normal); playSound(click)" />
        <Button name="options" text="Options" backgroundColor="#3A7BD5" textColor="white" onClick="openOptions" />
        <Button name="quit" text="Quit" backgroundColor="red" onClick="quit" />
      </VerticalLayout>

      <ToggleGroup name="difficulty" position="0,-90" size="300,30" />
      <Toggle name="easy" group="difficulty" position="-100,-90" size="90,30" isOn="true" />
      <Toggle name="hard" group="difficulty" position="0,-90" size="90,30" />

      <Dropdown name="resolution" options="1280x720, 1920x1080, 2560x1440" value="1" position="0,-140" size="300,32" />
      <InputField name="player" text="Player 1" position="0,-185" size="300,36" characterLimit="16" />
      <ProgressBar name="loading" minValue="0" maxValue="100" value="15" position="0,-240" size="400,16" fillColor="#4CAF50" />

      <ScrollView name="news" position="0,-420" size="480,160">
        <Text name="news1" text="Welcome aboard." size="0,24" bindId="1" />
        <Text name="news2" text="Patch notes are in." size="0,24" bindId="1" />
      </ScrollView>
    </Panel>
  </Canvas>
</UIML>
"##

/-- What is played on the menu screen. -/
def demoScript : String := r##"text 0 NABU STUDIO
menu.fadeIn(0.5)
title.bounce(0.6)
wait 0.7

progress loading 60 animate
event play click
wait 0.5

options.moveTo(0.4, 40, 0)
quit.slideOffScreen(0.5, right)
text 1 Headlines updated
wait 0.6

options.moveToOriginal(0.3)
subtitle.setText(ready)
progress loading 100 animate
wait 1

menu.restoreToOriginalState
"##

end Uiml.Studio
